import RpcTransport.Proofs.Json.Progress
import RpcTransport.Proofs.MessagePack.Decisions
import RpcTransport.Proofs.Serialization.Replay
import RpcTransport.Serialization.Object

/-!
# Readers stay within a body and move on

A body may hold anything, and its readers may be asked for anything in any order. What they have
left to read is always the body from some position on. A read that succeeds has moved the position,
so no more reads succeed than there are octets; a read that fails leaves it where it was, but for
two that have read something before they fail (`Spends`): octets in JSON, when the text that was
there is no base64, and a typed object, when the value that was there cannot be converted. A body
that is exhausted stays so, and every read says that it has ended.

MessagePack announces the size of octets in up to four octets, so a body can announce far more than
it has. The reader adds that size to its position before it looks whether the body goes so far; the
sum is no larger than a word, and nothing is taken that is not there.
-/

namespace RpcTransport

/-- One read of any kind. For a typed object all that matters is how a value is converted. -/
inductive Demand : Type 1 where
  | item (k : Item.Kind)
  | object {α : Type} (convert : Value → Option α)

namespace MessagePack

variable {bs after : Bytes} {n : Nat}

/-- The size of the octets that a body announces, and what stands behind the size. -/
def announced? : Bytes → Option (Nat × Bytes)
  | [] => none
  | b :: rest =>
    match Marker.ofOctet b with
    | .octets e => (size e rest).toOption
    | _ => none

theorem byteString_cons {b : UInt8} {rest : Bytes} {e : Extent} (h : Marker.ofOctet b = .octets e) :
    byteString (b :: rest) = (size e rest).bind fun y ↦ take y.1 y.2 := by
  rewrite [byteString, h]
  dsimp only
  rcases size e rest with err | y
  · rfl
  · rfl

theorem byteString_of_announced (h : announced? bs = some (n, after)) :
    byteString bs = take n after := by
  cases bs with
  | nil => exact nomatch h
  | cons b rest =>
    rw [announced?] at h
    split at h
    · next e hmarker =>
      rw [byteString_cons hmarker]
      rcases hsize : size e rest with err | y
      · rw [hsize] at h
        exact nomatch h
      · rw [hsize] at h
        obtain rfl : y = (n, after) := Option.some.inj h
        rfl
    · exact nomatch h

theorem take_eq (n : Nat) (bs : Bytes) :
    take n bs = if n ≤ bs.length then .ok (bs.take n, bs.drop n) else .error .endOfStream := by
  rw [take, Bytes.splitAt?, List.length_take]
  by_cases h : n ≤ bs.length
  · rw [if_pos h, if_pos (Nat.min_eq_left h)]
  · rw [if_neg h, if_neg fun hmin ↦ h (min_eq_left_iff.mp hmin)]

theorem lt_of_word {width : Nat} (h : word width bs = .ok (n, after)) :
    n < 256 ^ width ∧ after <:+ bs := by
  rw [word, take_eq] at h
  by_cases hwidth : width ≤ bs.length
  · rw [if_pos hwidth] at h
    obtain ⟨rfl, rfl⟩ := Prod.mk.inj (Except.ok.inj h)
    have hlt := Bytes.ofBigEndian_lt (bs.take width)
    rw [List.length_take_of_le hwidth] at hlt
    exact ⟨hlt, List.drop_suffix width bs⟩
  · rw [if_neg hwidth] at h
    cases h

/-- A size is told by four octets at most. -/
theorem announced?_spec (h : announced? bs = some (n, after)) :
    n < 2 ^ 32 ∧ after <:+ bs.tail := by
  cases bs with
  | nil => exact nomatch h
  | cons b rest =>
    have hwidths : ∀ b : Fin 256, (match Marker.ofOctet (UInt8.ofNat b) with
        | .octets e => [.counted 1, .counted 2, .counted 4].contains e
        | _ => true) = true := by
      decide +kernel
    have hwidth := hwidths ⟨b.toNat, b.toNat_lt⟩
    rw [UInt8.ofNat_toNat] at hwidth
    rw [announced?] at h
    split at h
    · next e hmarker =>
      rw [hmarker] at hwidth
      have hsize : size e rest = .ok (n, after) := by
        rcases hread : size e rest with err | y
        · rw [hread] at h
          exact nomatch h
        · rw [hread] at h
          exact congrArg Except.ok (Option.some.inj h)
      have he : e = .counted 1 ∨ e = .counted 2 ∨ e = .counted 4 := by
        simpa using hwidth
      rcases he with rfl | rfl | rfl
      all_goals
        obtain ⟨hn, hafter⟩ := lt_of_word hsize
        exact ⟨by omega, hafter⟩
    · exact nomatch h

end MessagePack

namespace Format

/-- A read that fails after it has read something: a text that is no base64, or a value that cannot
be converted. -/
inductive Spends : Format → Demand → Bytes → Bytes → Prop where
  | octets {body left : Bytes} {s : String} (hread : (readText .json).runOn body = (.ok s, left))
      (hs : ∀ octets, utf8 s ≠ Base64.encode octets) : Spends .json (.item .octets) body left
  | object {f : Format} {α : Type} {convert : Value → Option α} {body left : Bytes} {v : Value}
      (hread : f.readValue.runOn body = (.ok v, left)) (hv : convert v = none) :
      Spends f (.object convert) body left

variable {α : Type} {f : Format} {d : Demand} {k : Item.Kind} {body left data : Bytes}
  {pos : Nat}

/-- What was read does not matter here, only whether it was. -/
def perform (f : Format) : Demand → Reader Unit
  | .item k => (fun _ ↦ ()) <$> f.read k
  | .object convert => (fun _ ↦ ()) <$> f.readObject convert

/-- Read after read, whatever comes of each: the outcomes, and what is left in the end. -/
def performAll (f : Format) : List Demand → Bytes → List (Except SerializationError Unit) × Bytes
  | [], body => ([], body)
  | d :: ds, body =>
    let (outcome, left) := (f.perform d).runOn body
    let (outcomes, rest) := performAll f ds left
    (outcome :: outcomes, rest)

/-- How far a read goes: on, if it succeeds, and otherwise nowhere or as far as it has read. -/
def Moves (f : Format) (d : Demand) (body : Bytes) (y : Except SerializationError α × Bytes) :
    Prop :=
  y.2 <:+ body ∧
    match y.1 with
    | .ok _ => y.2.length < body.length
    | .error _ => y.2 = body ∨ f.Spends d body y.2

/-! ## Readers that move only if they succeed -/

/-- A parser that leaves the end of what it had, and not all of it. -/
def Advances (q : Bytes → Except SerializationError (α × Bytes)) : Prop :=
  ∀ bs x rest, q bs = .ok (x, rest) → rest <:+ bs ∧ rest.length < bs.length

theorem suffix_and_lt_of_cons {b : UInt8} {bs rest : Bytes} (h : rest <:+ bs) :
    rest <:+ b :: bs ∧ rest.length < (b :: bs).length :=
  ⟨h.trans (List.suffix_cons b bs), Nat.lt_succ_of_le h.length_le⟩

/-- A reader that goes by such a parser. -/
def Progresses (r : Reader α) : Prop := ∃ q, Advances q ∧ r = .ofParser q

theorem Progresses.map {β : Type} {r : Reader α} (h : Progresses r) (g : α → β) :
    Progresses (g <$> r) := by
  obtain ⟨q, hq, rfl⟩ := h
  refine ⟨_, fun bs x rest hread ↦ ?_, Reader.map_ofParser q g⟩
  rcases hbs : q bs with e | ⟨y, left⟩
  · rw [hbs] at hread
    exact nomatch hread
  · rw [hbs] at hread
    exact (Prod.mk.inj (Except.ok.inj hread)).2 ▸ hq bs y left hbs

theorem Progresses.moves {r : Reader α} (h : Progresses r) : f.Moves d body (r.runOn body) := by
  obtain ⟨q, hq, rfl⟩ := h
  rw [Reader.runOn_ofParser]
  rcases hbody : q body with e | ⟨x, rest⟩
  · exact ⟨List.suffix_refl body, .inl rfl⟩
  · exact hq body x rest hbody

theorem progresses_document {p : Nat → Json.Parser α}
    (hp : ∀ fuel bs, Json.Leaves Prod.snd (p fuel bs) bs.tail) : Progresses (Json.read p) := by
  refine ⟨_, fun body x rest h ↦ ?_, rfl⟩
  split at h
  · exact nomatch h
  · next hexhausted =>
    have hleaves := Json.leaves_nextDocument (hp (body.length + 1)) body
    rcases hnext : Json.nextDocument (p (body.length + 1)) body with fault | y
    · rw [hnext] at h
      exact nomatch h
    · rw [hnext] at h
      obtain rfl := Except.ok.inj h
      cases body with
      | nil => exact absurd rfl hexhausted
      | cons b bs => exact suffix_and_lt_of_cons (hleaves _ hnext)

theorem progresses_of_decides {p : MessagePack.Parser α} (hp : MessagePack.Decides p)
    (hnil : p [] = .error .endOfStream) : Progresses (.ofParser p) := by
  refine ⟨p, fun bs x rest h ↦ ?_, rfl⟩
  obtain ⟨octets, rfl, hreads⟩ := hp.of_ok h
  cases octets with
  | nil => exact nomatch hnil.symm.trans (hreads [])
  | cons b octets => exact suffix_and_lt_of_cons (List.suffix_append octets rest)

theorem progresses_text (f : Format) : Progresses f.readText := by
  cases f with
  | json => exact progresses_document Json.leaves_textDocument
  | messagePack => exact progresses_of_decides MessagePack.decides_string rfl

theorem progresses_value (f : Format) : Progresses f.readValue := by
  cases f with
  | json => exact progresses_document fun fuel ↦ Json.leaves_value fuel Json.depthLimit
  | messagePack => exact progresses_of_decides (MessagePack.decides_value _) rfl

/-- **Every reader but that of octets in JSON moves only if it succeeds.** -/
theorem progresses_read (h : f = .json → k ≠ .octets) : Progresses (f.read k) := by
  cases f with
  | json =>
    cases k with
    | octet | integer =>
      exact ((progresses_document fun _ ↦ Json.leaves_wholeWithin _ _ _ _).map _).map _
    | text => exact (progresses_text .json).map Item.text
    | octets => exact absurd rfl (h rfl)
    | value => exact (progresses_value .json).map Item.value
    | map => exact (progresses_document Json.leaves_textMapDocument).map Item.map
    | error => exact (progresses_document Json.leaves_remoteErrorDocument).map Item.error
  | messagePack =>
    cases k with
    | octet | integer =>
      exact ((progresses_of_decides (MessagePack.decides_wholeWithin _ _ _) rfl).map _).map _
    | text => exact (progresses_text .messagePack).map Item.text
    | octets => exact (progresses_of_decides MessagePack.decides_byteString rfl).map Item.octets
    | value => exact (progresses_value .messagePack).map Item.value
    | map => exact (progresses_of_decides MessagePack.decides_textMap rfl).map Item.map
    | error => exact (progresses_of_decides MessagePack.decides_remoteError rfl).map Item.error

/-! ## Any read -/

theorem moves_map {β : Type} {r : Reader α} (h : f.Moves d body (r.runOn body)) (g : α → β) :
    f.Moves d body ((g <$> r).runOn body) := by
  rw [Reader.runOn_map]
  rcases hread : r.runOn body with ⟨e | x, left⟩
  · rwa [hread] at h
  · rwa [hread] at h

/-- A reader that converts what another one has read. -/
theorem moves_bind {β : Type} {r : Reader α} {next : α → Reader β} (h : Progresses r)
    (hnext : ∀ x left, r.runOn body = (.ok x, left) →
      (∃ y, next x = pure y) ∨ ∃ e, next x = throw e ∧ f.Spends d body left) :
    f.Moves d body ((r >>= next).runOn body) := by
  have hmoves : f.Moves d body (r.runOn body) := h.moves
  rw [Reader.runOn_bind]
  rcases hread : r.runOn body with ⟨e | x, left⟩
  · rwa [hread] at hmoves
  · obtain ⟨hsuffix, hlt⟩ : left <:+ body ∧ left.length < body.length := by
      rwa [hread] at hmoves
    rcases hnext x left hread with ⟨y, hy⟩ | ⟨e, he, hspends⟩
    · dsimp only
      rw [hy]
      exact ⟨hsuffix, hlt⟩
    · dsimp only
      rw [he]
      exact ⟨hsuffix, .inr hspends⟩

theorem moves_octets_json (body : Bytes) :
    Moves .json (.item .octets) body (Json.readOctets.runOn body) := by
  refine moves_bind (progresses_text .json) fun s left hread ↦ ?_
  cases hdecode : Base64.decode? (utf8 s) with
  | some octets => exact .inl ⟨octets, rfl⟩
  | none =>
    refine .inr ⟨_, rfl, .octets hread fun octets hs ↦ ?_⟩
    exact nomatch hdecode.symm.trans (Base64.decode?_eq_some_iff.mpr hs.symm)

theorem moves_object {convert : Value → Option α} (f : Format) (body : Bytes) :
    f.Moves (.object convert) body ((f.readObject convert).runOn body) := by
  refine moves_bind (progresses_value f) fun v left hread ↦ ?_
  cases hconvert : convert v with
  | some x => exact .inl ⟨x, rfl⟩
  | none => exact .inr ⟨_, rfl, .object hread hconvert⟩

/-- **A read that succeeds moves on**, and one that fails stays, unless it spends. -/
theorem moves_perform (f : Format) (d : Demand) (body : Bytes) :
    f.Moves d body ((f.perform d).runOn body) := by
  cases d with
  | object convert => exact moves_map (moves_object f body) _
  | item k =>
    refine moves_map (r := f.read k) ?_ _
    by_cases h : f = .json ∧ k = .octets
    · obtain ⟨rfl, rfl⟩ := h
      exact moves_map (moves_octets_json body) Item.octets
    · exact (progresses_read fun hf hk ↦ h ⟨hf, hk⟩).moves

/-- Conversely, what spends has moved, and fails. -/
theorem perform_of_spends (h : f.Spends d body left) :
    left ≠ body ∧ ∃ e, (f.perform d).runOn body = (.error e, left) := by
  have hne {β : Type} {r : Reader β} {x : β} (hr : Progresses r)
      (hread : r.runOn body = (.ok x, left)) : left ≠ body := by
    have hmoves : f.Moves d body (r.runOn body) := hr.moves
    rw [hread] at hmoves
    exact fun heq ↦ absurd (congrArg List.length heq) (Nat.ne_of_lt hmoves.2)
  cases h with
  | @octets _ _ s hread hs =>
    refine ⟨hne (progresses_text .json) hread, .decode "invalid base64", ?_⟩
    have hdecode : Base64.decode? (utf8 s) = none := by
      refine Option.eq_none_iff_forall_ne_some.mpr fun octets hoctets ↦ ?_
      exact hs octets (Base64.decode?_eq_some_iff.mp hoctets).symm
    have hoctets : Json.readOctets.runOn body = (.error (.decode "invalid base64"), left) := by
      refine (Reader.runOn_bind_ok hread _).trans ?_
      rw [hdecode]
      rfl
    exact Reader.runOn_bind_error (Reader.runOn_bind_error hoctets _) _
  | @object _ _ convert _ _ _ hread hv =>
    refine ⟨hne (progresses_value f) hread, .typeMismatch "value of another shape", ?_⟩
    have hobject : (f.readObject convert).runOn body =
        (.error (.typeMismatch "value of another shape"), left) := by
      refine (Reader.runOn_bind_ok hread _).trans ?_
      rw [hv]
      rfl
    exact Reader.runOn_bind_error hobject _

theorem perform_of_isExhausted (h : f.isExhausted body = true) (d : Demand) :
    (f.perform d).runOn body = (.error .endOfStream, body) := by
  cases d with
  | item k => exact Reader.runOn_bind_error (runOn_read_of_isExhausted h k) _
  | object convert =>
    have hitem : (Item.value <$> f.readValue).runOn body = (.error .endOfStream, body) :=
      runOn_read_of_isExhausted h .value
    have hvalue : f.readValue.runOn body = (.error .endOfStream, body) := by
      rw [Reader.runOn_map] at hitem
      rcases hread : f.readValue.runOn body with ⟨e | v, left⟩
      · rw [hread] at hitem
        obtain ⟨he, rfl⟩ := Prod.mk.inj hitem
        rw [Except.error.inj he]
      · rw [hread] at hitem
        exact nomatch hitem
    exact Reader.runOn_bind_error (Reader.runOn_bind_error hvalue _) _

theorem performAll_of_isExhausted (h : f.isExhausted body = true) (ds : List Demand) :
    f.performAll ds body = (ds.map fun _ ↦ .error .endOfStream, body) := by
  induction ds with
  | nil => rfl
  | cons d ds ih =>
    rw [performAll, perform_of_isExhausted h]
    dsimp only
    rw [ih, List.map_cons]

/-! ## Any reads -/

/-- What is left is the end of the body, and every read that succeeded has taken some of it. -/
theorem performAll_suffix (f : Format) (ds : List Demand) (body : Bytes) :
    (f.performAll ds body).2 <:+ body ∧
      (f.performAll ds body).1.countP Except.isOk + (f.performAll ds body).2.length ≤
        body.length := by
  induction ds generalizing body with
  | nil => exact ⟨List.suffix_refl body, Nat.le_of_eq (Nat.zero_add _)⟩
  | cons d ds ih =>
    obtain ⟨hsuffix, hmoved⟩ := moves_perform f d body
    rw [performAll]
    rcases hread : (f.perform d).runOn body with ⟨outcome, left⟩
    rw [hread] at hsuffix hmoved
    obtain ⟨hrest, hcount⟩ := ih left
    refine ⟨hrest.trans hsuffix, ?_⟩
    dsimp only
    cases outcome with
    | ok x =>
      have hlt : left.length < body.length := hmoved
      rw [List.countP_cons_of_pos rfl]
      omega
    | error e =>
      have hle := hsuffix.length_le
      rw [List.countP_cons_of_neg Bool.false_ne_true]
      exact hcount.trans hle

/-! ## Positions -/

/-- What a read can do at a position of a body. -/
structure SafeAt (f : Format) (data : Bytes) (pos : Nat) : Prop where
  /-- A read ends at a position that is no less, and greater if it succeeds. -/
  moves (d : Demand) : ∃ next, pos ≤ next ∧ next ≤ data.length ∧
    ((f.perform d).runOn (data.drop pos)).2 = data.drop next ∧
    match ((f.perform d).runOn (data.drop pos)).1 with
    | .ok _ => pos < next
    | .error _ => next = pos ∨ f.Spends d (data.drop pos) (data.drop next)
  /-- What spends is past what it has read, and fails. -/
  spends (d : Demand) (left : Bytes) : f.Spends d (data.drop pos) left →
    left ≠ data.drop pos ∧ ∃ e, (f.perform d).runOn (data.drop pos) = (.error e, left)
  /-- There is nothing behind the end. -/
  ends (ds : List Demand) : f.isExhausted (data.drop pos) = true →
    f.performAll ds (data.drop pos) = (ds.map fun _ ↦ .error .endOfStream, data.drop pos)
  /-- Octets are taken from where they start as far as their size goes, if the body goes so far.
  Their end is a number of 64 bits, whatever size is announced, as the length of a body is one
  of 63. -/
  announces (n : Nat) (after : Bytes) :
    f = .messagePack → MessagePack.announced? (data.drop pos) = some (n, after) →
      ∃ start, pos < start ∧ start ≤ data.length ∧ after = data.drop start ∧ n < 2 ^ 32 ∧
        (data.length < 2 ^ 63 → start + n < 2 ^ 64) ∧
        (f.read .octets).runOn (data.drop pos) =
          if start + n ≤ data.length then
            (.ok (.octets ((data.drop start).take n)), data.drop (start + n))
          else (.error .endOfStream, data.drop pos)

/-- An end of what is left at a position is what is left at another. -/
theorem exists_position (hpos : pos ≤ data.length) (h : left <:+ data.drop pos) :
    ∃ next, pos ≤ next ∧ next ≤ data.length ∧ left = data.drop next ∧
      left.length + next = data.length := by
  have hle := h.length_le
  rw [List.length_drop] at hle
  refine ⟨data.length - left.length, by omega, by omega, ?_, by omega⟩
  exact List.suffix_iff_eq_drop.mp (h.trans (List.drop_suffix pos data))

theorem safeAt (f : Format) (hpos : pos ≤ data.length) : f.SafeAt data pos where
  moves d := by
    obtain ⟨hsuffix, hmoved⟩ := moves_perform f d (data.drop pos)
    obtain ⟨next, hle, hnext, hleft, hlength⟩ := exists_position hpos hsuffix
    refine ⟨next, hle, hnext, hleft, ?_⟩
    rcases hread : (f.perform d).runOn (data.drop pos) with ⟨e | x, left⟩
    · rw [hread] at hmoved hleft
      refine hmoved.imp (fun hstay ↦ ?_) fun hspends ↦ hleft ▸ hspends
      rw [hread, show left = data.drop pos from hstay, List.length_drop] at hlength
      omega
    · rw [hread] at hmoved hlength
      have hlt : left.length < (data.drop pos).length := hmoved
      rw [List.length_drop] at hlt
      dsimp only at hlength ⊢
      omega
  spends d left := perform_of_spends
  ends ds h := performAll_of_isExhausted h ds
  announces n after := by
    rintro rfl h
    obtain ⟨hn, hsuffix⟩ := MessagePack.announced?_spec h
    have hlt : pos < data.length := by
      refine Nat.lt_of_not_le fun hend ↦ ?_
      rw [List.drop_eq_nil_of_le hend] at h
      exact nomatch h
    rw [List.tail_drop] at hsuffix
    obtain ⟨start, hstart, hle, rfl, -⟩ := exists_position hlt hsuffix
    refine ⟨start, hstart, hle, rfl, hn, fun hdata ↦ by omega, ?_⟩
    change (Item.octets <$> Reader.ofParser MessagePack.byteString).runOn (data.drop pos) = _
    rw [Reader.runOn_map, Reader.runOn_ofParser, MessagePack.byteString_of_announced h,
      MessagePack.take_eq, List.length_drop, List.drop_drop]
    by_cases hend : start + n ≤ data.length
    · rw [if_pos hend, if_pos (by omega)]
      rfl
    · rw [if_neg hend, if_neg (by omega)]
      rfl

/-- **Readers stay within a body.** Whatever was read of whatever body, with whatever success, what
is left is the body from some position on; no more reads succeeded than there are octets before it,
and it is as safe to read on there as at any other position. -/
theorem performAll_within (f : Format) (data : Bytes) (ds : List Demand) :
    ∃ pos, pos ≤ data.length ∧ (f.performAll ds data).2 = data.drop pos ∧
      (f.performAll ds data).1.countP Except.isOk ≤ pos ∧ f.SafeAt data pos := by
  obtain ⟨hsuffix, hcount⟩ := performAll_suffix f ds data
  obtain ⟨pos, -, hpos, hleft, hlength⟩ := exists_position (Nat.zero_le _) hsuffix
  exact ⟨pos, hpos, hleft, by omega, safeAt f hpos⟩

/-- A body of six octets that announces as many as a body can. -/
example : (performAll .messagePack [.item .octets, .item .text]
    [0xc6, 0xff, 0xff, 0xff, 0xff, 1]).2 = [0xc6, 0xff, 0xff, 0xff, 0xff, 1] := rfl

end Format

end RpcTransport
