import RpcTransport.Proofs.Json.Values
import RpcTransport.Serialization.Format

/-!
# JSON documents are read as they were written

Each kind of document is read by the reader of its type as what was written, and then the line feed
behind it is still to be read: it belongs to no document. So a reader of the next document may have
a line feed before it (`read_document`), and a body that has a document ahead is not exhausted.

The entries of a map may have been written in any order.
-/

namespace RpcTransport.Json

variable {α : Type} {fuel : Nat}

/-! ## Scalars -/

theorem reads_wholeWithin {z lower upper : Int} (hz : lower ≤ z ∧ z ≤ upper)
    (hword : -0x8000000000000000 ≤ z ∧ z < 0x10000000000000000) (wanted : String) :
    Reads (wholeWithin fuel wanted lower upper) (ofInteger z) z := by
  intro b rest hb
  have hread := valueWith_ofInteger hword.1 hword.2 hb fuel none rest
  rw [wholeWithin, (starts_ofInteger z).skipSpace]
  have hfirst : ∃ c more, ofInteger z = c :: more ∧ (c = 0x2d ∨ isDigit c = true) := by
    cases z with
    | ofNat n =>
      obtain ⟨c, digits, heq, hc⟩ := exists_isDigit_toDigits n
      exact ⟨c, digits, heq, .inr hc⟩
    | negSucc n => exact ⟨0x2d, _, rfl, .inl rfl⟩
  obtain ⟨c, more, heq, hc⟩ := hfirst
  rw [heq, List.cons_append] at hread ⊢
  dsimp only
  rw [if_pos hc, hread]
  dsimp only [Value.whole?]
  rw [if_pos hz]

/-- What is no number is refused, whatever else may be wrong with it. -/
theorem wrongType_error (wanted : String) (b : UInt8) (rest : Bytes) :
    ∃ e, (wrongType fuel wanted b rest : Except Fault α) = .error e := by
  rw [wrongType]
  split
  · exact ⟨_, rfl⟩
  split
  · exact ⟨_, rfl⟩
  split
  all_goals exact ⟨_, rfl⟩

theorem wholeWithin_ofText (fuel : Nat) (wanted : String) (lower upper : Int) (s : String)
    (rest : Bytes) :
    ∃ e, wholeWithin fuel wanted lower upper (ofText s ++ rest) = .error e := by
  rw [wholeWithin, (starts_ofText s).skipSpace]
  exact wrongType_error wanted 0x22 _

theorem reads_textDocument (s : String) (h : (ofText s).length ≤ fuel) :
    Reads (textDocument fuel) (ofText s) s :=
  fun b rest _ ↦ quotedText_ofText s h (b :: rest)

/-! ## Maps and errors -/

/-- **A map is read as it was written**, in whatever order. -/
theorem reads_textMapDocument {m : TextMap} {entries : List (String × String)}
    (hentries : entries.Perm m.entries) (h : (ofEntries entries).length ≤ fuel) :
    Reads (textMapDocument fuel) (ofEntries entries) m := by
  intro b rest _
  rw [ofEntries] at h ⊢
  obtain ⟨hcount, hlength⟩ := length_object_le Prod.fst (fun e ↦ ofText e.2) h
  have hkey : ∀ e ∈ entries, (ofText e.1).length ≤ fuel :=
    fun e he ↦ Nat.le_trans (Nat.le_add_right _ _) (hlength e he)
  have hstep : ∀ e ∈ entries, ∀ known, Reads (addTextEntry fuel e.1 known) (0x3a :: ofText e.2)
      (known.insert e.1 e.2) := by
    intro e he known
    have hfits := hlength e he
    exact reads_behind_colon (reads_textDocument e.2 (by omega)) (known.insert e.1)
  rw [enclose_append]
  change members fuel (addTextEntry fuel) fuel true TextMap.empty _ = _
  rw [members_row hkey hstep hcount]
  change Except.ok (TextMap.ofList entries, b :: rest) = _
  rw [TextMap.ofList_of_perm hentries]

theorem reads_addErrorField_kind {s : String} (h : (ofText s).length ≤ fuel) :
    Reads (addErrorField fuel "kind" .none) (0x3a :: ofText s) ⟨some s, none⟩ := by
  intro b rest hb
  rw [addErrorField, if_pos rfl, if_neg (by simp [ErrorFields.none])]
  exact reads_behind_colon (reads_textDocument s h) (fun s ↦ ErrorFields.mk (some s) none)
    b rest hb

theorem reads_addErrorField_message (kind : String) {s : String} (h : (ofText s).length ≤ fuel) :
    Reads (addErrorField fuel "message" ⟨some kind, none⟩) (0x3a :: ofText s)
      ⟨some kind, some s⟩ := by
  intro b rest hb
  rw [addErrorField, if_neg (by decide), if_pos rfl, if_neg (by simp)]
  exact reads_behind_colon (reads_textDocument s h)
    (fun s ↦ ErrorFields.mk (some kind) (some s)) b rest hb

theorem reads_remoteErrorDocument (e : RemoteError) (h : (ofError e).length ≤ fuel) :
    Reads (remoteErrorDocument fuel) (ofError e) e := by
  intro b rest _
  let entries := [("kind", e.kind), ("message", e.message)]
  let pieces := [member "kind" (ofText e.kind), member "message" (ofText e.message)]
  obtain ⟨hcount, hlength⟩ : 2 < fuel ∧
      ∀ f ∈ entries, (ofText f.1).length + ((ofText f.2).length + 1) ≤ fuel :=
    length_object_le Prod.fst (fun f ↦ ofText f.2) h
  have hkind : (ofText "kind").length + ((ofText e.kind).length + 1) ≤ fuel :=
    hlength _ List.mem_cons_self
  have hmessage : (ofText "message").length + ((ofText e.message).length + 1) ≤ fuel :=
    hlength _ (List.mem_cons_of_mem _ List.mem_cons_self)
  have hfields : members fuel (addErrorField fuel) fuel true .none
      (row true pieces ++ 0x7d :: b :: rest) =
        .ok (⟨some e.kind, some e.message⟩, b :: rest) := by
    obtain ⟨more, hmore⟩ := Nat.exists_eq_add_of_le hcount
    rw [show fuel = more + 1 + 1 + 1 by omega] at hkind hmessage ⊢
    rw [members_cons (by omega) (reads_addErrorField_kind (by omega)),
      members_cons (by omega) (reads_addErrorField_message e.kind (by omega))]
    exact members_nil more false (b :: rest)
  change remoteErrorDocument fuel (enclose 0x7b 0x7d pieces ++ b :: rest) = _
  rw [enclose_append]
  change (members fuel (addErrorField fuel) fuel true .none _ >>=
    fun p ↦ p.1.complete.mapError .mismatch >>= fun e ↦ pure (e, p.2)) = _
  rw [hfields]
  rfl

/-! ## Documents in a body -/

theorem runOn_read (p : Nat → Parser α) (body : Bytes) :
    (read p).runOn body =
      match if isExhausted body then .error .endOfStream
        else (nextDocument (p (body.length + 1)) body).mapError (Fault.toError body) with
      | .ok (x, rest) => (.ok x, rest)
      | .error e => (.error e, body) := rfl

/-- A reader that refuses what comes next stays before it. -/
theorem runOn_read_error {p : Nat → Parser α} {text : Bytes} (hstart : Starts text) (rest : Bytes)
    (hp : ∀ fuel, ∃ e, p fuel (text ++ rest) = .error e) :
    ∃ e, (read p).runOn (text ++ rest) = (.error e, text ++ rest) := by
  obtain ⟨fault, hfault⟩ := hp ((text ++ rest).length + 1)
  have hnext : nextDocument (p ((text ++ rest).length + 1)) (text ++ rest) = .error fault := by
    obtain ⟨b, more, rfl, -, -⟩ := id hstart
    rw [nextDocument, hstart.skipSpace, List.cons_append]
    dsimp only
    rw [← List.cons_append, hfault]
  rw [runOn_read, hnext]
  split
  · next heq =>
    split at heq
    · exact nomatch heq
    · exact nomatch heq
  · exact ⟨_, rfl⟩

/-- A body with a document ahead, be there the line feed of the last before it or not. -/
theorem document_ahead {text : Bytes} (h : Starts text) {body rest : Bytes}
    (hbody : body = document text ++ rest ∨ body = 0x0a :: (document text ++ rest)) :
    isExhausted body = false ∧ skipSpace body = text ++ 0x0a :: rest ∧
      text.length ≤ body.length + 1 := by
  have hdocument : document text ++ rest = text ++ 0x0a :: rest := List.append_assoc ..
  rw [hdocument] at hbody
  obtain ⟨b, more, rfl, hblank, -⟩ := id h
  refine ⟨?_, ?_, ?_⟩
  · rw [isExhausted, List.all_eq_false]
    refine ⟨b, ?_, Bool.eq_false_iff.mp hblank⟩
    rcases hbody with rfl | rfl
    · exact List.mem_cons_self
    · exact List.mem_cons_of_mem _ List.mem_cons_self
  · rcases hbody with rfl | rfl
    · exact h.skipSpace _
    · exact h.skipSpace _
  · rcases hbody with rfl | rfl
    all_goals simp; omega

/-- **The next document is read**, be there the line feed of the last before it or not, and its own
line feed is left. -/
theorem read_document {p : Nat → Parser α} {text : Bytes} {x : α} (hstart : Starts text)
    (hp : ∀ fuel, text.length ≤ fuel → Reads (p fuel) text x) {body rest : Bytes}
    (hbody : body = document text ++ rest ∨ body = 0x0a :: (document text ++ rest)) :
    (read p).runOn body = (.ok x, 0x0a :: rest) := by
  obtain ⟨hexhausted, hskip, hlength⟩ := document_ahead hstart hbody
  obtain ⟨b, more, rfl, -, -⟩ := hstart
  have hnext : nextDocument (p (body.length + 1)) body = .ok (x, 0x0a :: rest) := by
    rw [nextDocument, hskip, List.cons_append]
    dsimp only
    rw [← List.cons_append, hp _ hlength 0x0a rest rfl]
    dsimp only
    rw [if_pos (.inr rfl)]
  rw [runOn_read, hexhausted, if_neg Bool.false_ne_true, hnext]
  rfl

end RpcTransport.Json
