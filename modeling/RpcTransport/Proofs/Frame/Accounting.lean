import RpcTransport.Frame.Session
import RpcTransport.Proofs.Frame.RoundTrip

/-!
# Bodies are accounted for

One codec reads and writes. A body comes from the reader, or from elsewhere, and it is held under
the number of its place until it is dropped, turned into plain octets or written with a frame; it
may be copied meanwhile. The frame that is written may be the one that was read.

## Places

The handle of a body is used up once, and its place is empty from then on. So the handles that count
are the places with a tracked body, and a call leaves every place but its own as it was. Each call
keeps three counts in step with that number (`Balanced`): one that adopts adds a place, and one that
releases empties one, whether or not the frame could be written.
-/

namespace RpcTransport

/-- How many handles of the arena a body is. -/
def Body.weight (b : Body) : Nat := if b.tracked then 1 else 0

namespace Arena

theorem release_adopted (a : Arena) (b : Body) : (a.release b).adopted = a.adopted := by
  rw [release]
  split
  · rfl
  · rfl

theorem release_released (a : Arena) (b : Body) :
    (a.release b).released = a.released + b.weight := by
  rw [release, Body.weight]
  split
  · rfl
  · rfl

theorem release_live {a : Arena} {b : Body} (h : b.weight ≤ a.live) :
    (a.release b).live + b.weight = a.live := by
  rw [Body.weight] at h
  rw [release, Body.weight]
  by_cases hb : b.tracked = true
  · rw [if_pos hb] at h
    rw [if_pos hb, if_pos hb]
    exact Nat.sub_add_cancel h
  · rw [if_neg hb, if_neg hb]
    rfl

end Arena

theorem Frame.encode_of_lt {limit : Nat} {f : Frame} (h : clampLimit limit < f.body.octets.length) :
    f.encode limit = .error (.payloadTooLarge f.body.octets.length (clampLimit limit)) := by
  rw [encode, if_pos h]

theorem Frame.clampLimit_clampLimit (limit : Nat) :
    clampLimit (clampLimit limit) = clampLimit limit := by
  rw [clampLimit, clampLimit, Nat.min_assoc, Nat.min_self]

namespace FrameReader

/-- Reading does not change how large a frame may be. -/
theorem decode_limit (registry : Registry) (r : FrameReader) :
    (r.decode registry).2.limit = r.limit := by
  rw [decode]
  split
  · rfl
  · split
    · rfl
    · split
      · rfl
      · split
        · rfl
        · rfl

/-- What is read belongs to the arena. -/
theorem tracked_of_decode {registry : Registry} {r : FrameReader} {f : Frame}
    (h : (r.decode registry).1 = .ok (some f)) : f.body.tracked = true := by
  rw [decode] at h
  split at h
  · cases h
  · split at h
    · cases h
    · split at h
      · cases h
      · split at h
        · cases h
        · obtain rfl := Option.some.inj (Except.ok.inj h)
          rfl

/-- At the end of a stream a reader gives the same frames and moves in the same way. -/
theorem decodeLast_eq (registry : Registry) (r : FrameReader) :
    (r.decodeLast registry).2 = (r.decode registry).2 ∧
      ∀ f, (r.decodeLast registry).1 = .ok (some f) → (r.decode registry).1 = .ok (some f) := by
  rw [decodeLast]
  split
  · next h =>
    rw [h]
    refine ⟨rfl, fun f hf ↦ ?_⟩
    split at hf
    · cases hf
    · cases hf
  · next h => exact ⟨rfl, fun f hf ↦ hf⟩

end FrameReader

namespace CodecSession

/-! ## Calls -/

/-- The body at a place, if it is still there. -/
def handle? (s : CodecSession) (index : Nat) : Option Body := (s.held[index]?).join

/-- Ask for the next frame, of a stream that goes on or of one that has ended. -/
def ask (s : CodecSession) (last : Bool) (registry : Registry) (hold : Bool) :
    Except CodecError (Option Frame) × CodecSession :=
  if last then s.decodeLast registry hold else s.decode registry hold

/-- Write a frame around the body at a place, which is used up. -/
def write (s : CodecSession) (index : Nat) (f : Frame) : Except CodecError Unit × CodecSession :=
  { s with held := s.held.set index none }.encode f

inductive Call where
  | feed (octets : Bytes)
  | ask (last : Bool) (registry : Registry) (hold : Bool)
  /-- A body comes in that belongs to the arena and was not read here. -/
  | adopt (octets : Bytes)
  /-- A body comes in that does not belong to the arena. -/
  | detach (octets : Bytes)
  /-- Write a frame with the body at a place, whatever else is in the frame. -/
  | write (index : Nat) (frame : Frame)
  | retain (index : Nat)
  /-- Drop the body at a place, or turn it into plain octets. -/
  | release (index : Nat)

/-- Make a call. One that names an empty place does nothing. -/
def perform (s : CodecSession) : Call → CodecSession
  | .feed octets => s.feed octets
  | .ask last registry hold => (s.ask last registry hold).2
  | .adopt octets =>
    let (b, arena) := s.arena.adopt octets
    { s with arena := arena, held := s.held ++ [some b] }
  | .detach octets => { s with held := s.held ++ [some (.detached octets)] }
  | .write index f =>
    match s.handle? index with
    | some b => (s.write index { f with body := b }).2
    | none => s
  | .retain index =>
    match s.handle? index with
    | some b =>
      let (b, arena) := s.arena.retain b
      { s with arena := arena, held := s.held ++ [some b] }
    | none => s
  | .release index => (s.release index).2

/-- The session that some calls have led to. -/
def after (limit : Nat) (calls : List Call) : CodecSession := calls.foldl perform (ofLimit limit)

/-! ## The books -/

/-- The tracked bodies that were not released. -/
def tracked (s : CodecSession) : Nat := s.held.countP (·.any Body.tracked)

structure Balanced (limit : Nat) (s : CodecSession) : Prop where
  limit_eq : s.reader.limit = Frame.clampLimit limit
  live_eq : s.arena.live = s.tracked
  adopted_eq : s.arena.adopted = s.arena.live + s.arena.released

theorem countP_some (b : Body) : [some b].countP (·.any Body.tracked) = b.weight := by
  rw [List.countP_singleton]
  rfl

/-- To empty a place is to have its body no longer. -/
theorem countP_set_none {held : List (Option Body)} {index : Nat} {b : Body}
    (h : held[index]? = some (some b)) :
    (held.set index none).countP (·.any Body.tracked) + b.weight =
      held.countP (·.any Body.tracked) := by
  obtain ⟨hlt, hget⟩ := List.getElem?_eq_some_iff.mp h
  have hle := List.boole_getElem_le_countP (p := (·.any Body.tracked)) hlt
  rw [hget] at hle
  rw [List.countP_set hlt, hget]
  exact Nat.sub_add_cancel hle

theorem getElem?_of_handle? {s : CodecSession} {index : Nat} {b : Body}
    (h : s.handle? index = some b) : s.held[index]? = some (some b) := by
  rw [handle?, Option.join_eq_some_iff] at h
  exact h

variable {limit : Nat} {s : CodecSession}

/-- A body that is held is counted. -/
theorem Balanced.weight_le (hs : s.Balanced limit) {index : Nat} {b : Body}
    (h : s.held[index]? = some (some b)) : b.weight ≤ s.arena.live := by
  have hset := countP_set_none h
  have hlive := hs.live_eq
  rw [tracked] at hlive
  omega

/-- A body is held that was not there before. -/
theorem Balanced.retain (hs : s.Balanced limit) (b : Body) :
    Balanced limit
      { s with arena := (s.arena.retain b).2, held := s.held ++ [some (s.arena.retain b).1] } where
  limit_eq := hs.limit_eq
  live_eq := by
    have hlive := hs.live_eq
    rw [tracked] at hlive
    change (s.arena.retain b).2.live = (s.held ++ [some b]).countP (·.any Body.tracked)
    rw [List.countP_append, countP_some, ← hlive, Arena.retain, Body.weight]
    split
    · rfl
    · rfl
  adopted_eq := by
    have hadopted := hs.adopted_eq
    change (s.arena.retain b).2.adopted = (s.arena.retain b).2.live + (s.arena.retain b).2.released
    rw [Arena.retain]
    split
    · change s.arena.adopted + 1 = s.arena.live + 1 + s.arena.released
      omega
    · exact hadopted

/-- A body is released, and its place is empty. -/
theorem Balanced.release (hs : s.Balanced limit) {index : Nat} {b : Body}
    (h : s.held[index]? = some (some b)) :
    Balanced limit { s with arena := s.arena.release b, held := s.held.set index none } where
  limit_eq := hs.limit_eq
  live_eq := by
    have hlive := hs.live_eq
    have hset := countP_set_none h
    have hrelease := Arena.release_live (hs.weight_le h)
    rw [tracked] at hlive ⊢
    change (s.arena.release b).live = (s.held.set index none).countP _
    omega
  adopted_eq := by
    have hadopted := hs.adopted_eq
    have hrelease := Arena.release_live (hs.weight_le h)
    change (s.arena.release b).adopted = (s.arena.release b).live + (s.arena.release b).released
    rw [Arena.release_adopted, Arena.release_released]
    omega

/-! ## Reading -/

/-- What asking for a frame does besides moving the reader. A frame adopts its body, which is held
or released at once; an error, or no frame, adopts nothing. -/
structure Asks (s : CodecSession) (hold : Bool)
    (outcome : Except CodecError (Option Frame) × CodecSession) : Prop where
  output_eq : outcome.2.output = s.output
  frame : ∀ f, outcome.1 = .ok (some f) → f.body.tracked = true ∧
    outcome.2.arena.adopted = s.arena.adopted + 1 ∧
    outcome.2.arena.released = s.arena.released + (if hold then 0 else 1) ∧
    outcome.2.held = s.held ++ [if hold then some f.body else none]
  nothing : (∀ f, outcome.1 ≠ .ok (some f)) →
    outcome.2.arena = s.arena ∧ outcome.2.held = s.held

section

variable {hold : Bool} {outcome : Except CodecError (Option Frame) × FrameReader}

theorem asks_receive (htracked : ∀ f, outcome.1 = .ok (some f) → f.body.tracked = true) :
    s.Asks hold (s.receive hold outcome) := by
  rw [receive]
  split
  · next f hf =>
    have hbody := htracked f hf
    cases hold with
    | true =>
      rw [if_pos rfl]
      refine ⟨rfl, fun g hg ↦ ?_, fun hnone ↦ absurd hf (hnone f)⟩
      obtain rfl := Option.some.inj (Except.ok.inj (hf.symm.trans hg))
      exact ⟨hbody, rfl, rfl, rfl⟩
    | false =>
      rw [if_neg Bool.false_ne_true]
      refine ⟨rfl, fun g hg ↦ ?_, fun hnone ↦ absurd hf (hnone f)⟩
      obtain rfl := Option.some.inj (Except.ok.inj (hf.symm.trans hg))
      refine ⟨hbody, Arena.release_adopted _ _, ?_, rfl⟩
      rw [Arena.release_released, Body.weight, if_pos hbody]
      rfl
  · next hnone => exact ⟨rfl, fun f hf ↦ absurd hf (hnone f), fun _ ↦ ⟨rfl, rfl⟩⟩

/-- A body that is read is held, or was held and released. -/
theorem Balanced.receive (hs : s.Balanced limit) (hlimit : outcome.2.limit = s.reader.limit)
    (htracked : ∀ f, outcome.1 = .ok (some f) → f.body.tracked = true) :
    Balanced limit (s.receive hold outcome).2 := by
  have hreader : outcome.2.limit = Frame.clampLimit limit := hlimit.trans hs.limit_eq
  have hmoved : Balanced limit { s with reader := outcome.2 } :=
    ⟨hreader, hs.live_eq, hs.adopted_eq⟩
  rw [CodecSession.receive]
  split
  · next f hf =>
    have hbody := htracked f hf
    have hheld := hmoved.retain f.body
    rw [Arena.retain, if_pos hbody] at hheld
    cases hold with
    | true => exact hheld
    | false =>
      have hplace : (s.held ++ [some f.body])[s.held.length]? = some (some f.body) :=
        List.getElem?_concat_length
      have hreleased := hheld.release hplace
      simpa using hreleased
  · exact hmoved

end

theorem ask_eq (s : CodecSession) (last : Bool) (registry : Registry) (hold : Bool) :
    ∃ outcome, s.ask last registry hold = s.receive hold outcome ∧
      outcome.2.limit = s.reader.limit ∧
      ∀ f, outcome.1 = .ok (some f) → f.body.tracked = true := by
  have hlimit := s.reader.decode_limit registry
  have htracked (f : Frame) (hf : (s.reader.decode registry).1 = .ok (some f)) :
      f.body.tracked = true := FrameReader.tracked_of_decode hf
  cases last with
  | true =>
    obtain ⟨hreader, hframe⟩ := s.reader.decodeLast_eq registry
    exact ⟨s.reader.decodeLast registry, rfl, hreader ▸ hlimit, fun f hf ↦ htracked f (hframe f hf)⟩
  | false => exact ⟨s.reader.decode registry, rfl, hlimit, htracked⟩

/-! ## Writing -/

/-- What writing a frame around the body at a place does. The body is released and its place is
empty, whether or not it was within the limit; the reader stays as it was. -/
structure Writes (limit : Nat) (s : CodecSession) (index : Nat) (f : Frame)
    (outcome : Except CodecError Unit × CodecSession) : Prop where
  reader_eq : outcome.2.reader = s.reader
  held_eq : outcome.2.held = s.held.set index none
  adopted_eq : outcome.2.arena.adopted = s.arena.adopted
  released_eq : outcome.2.arena.released = s.arena.released + f.body.weight
  live_eq : outcome.2.arena.live + f.body.weight = s.arena.live
  ok_iff : outcome.1 = .ok () ↔ f.body.octets.length ≤ Frame.clampLimit limit
  ok : outcome.1 = .ok () → outcome.2.output = s.output ++ (f.header ++ f.body.octets) ∧
    outcome.2.output.length = s.output.length + (16 + f.body.octets.length)
  error : ∀ e, outcome.1 = .error e → outcome.2.output = s.output

theorem write_of_le {index : Nat} {f : Frame}
    (h : f.body.octets.length ≤ Frame.clampLimit s.reader.limit) :
    s.write index f = (.ok (), { s with
      arena := s.arena.release f.body
      held := s.held.set index none
      output := s.output ++ (f.header ++ f.body.octets) }) := by
  rw [write, CodecSession.encode]
  simp only [Frame.encode_of_le h]

theorem write_of_lt {index : Nat} {f : Frame}
    (h : Frame.clampLimit s.reader.limit < f.body.octets.length) :
    s.write index f =
      (.error (.payloadTooLarge f.body.octets.length (Frame.clampLimit s.reader.limit)),
        { s with arena := s.arena.release f.body, held := s.held.set index none }) := by
  rw [write, CodecSession.encode]
  simp only [Frame.encode_of_lt h]

theorem Balanced.writes (hs : s.Balanced limit) {index : Nat} {f : Frame}
    (h : s.held[index]? = some (some f.body)) : s.Writes limit index f (s.write index f) := by
  have hadopted := s.arena.release_adopted f.body
  have hreleased := s.arena.release_released f.body
  have hlive := Arena.release_live (hs.weight_le h)
  have hlimit : Frame.clampLimit s.reader.limit = Frame.clampLimit limit := by
    rw [hs.limit_eq, Frame.clampLimit_clampLimit]
  by_cases hsize : f.body.octets.length ≤ Frame.clampLimit limit
  · rw [write_of_le (hlimit ▸ hsize)]
    refine ⟨rfl, rfl, hadopted, hreleased, hlive, iff_of_true rfl hsize, fun _ ↦ ⟨rfl, ?_⟩, nofun⟩
    rw [List.length_append, List.length_append, Frame.length_header]
  · rw [write_of_lt (hlimit ▸ Nat.lt_of_not_le hsize)]
    exact ⟨rfl, rfl, hadopted, hreleased, hlive, iff_of_false nofun hsize, nofun, fun _ _ ↦ rfl⟩

/-- A body that is written is released, also if its frame is refused. -/
theorem Balanced.write (hs : s.Balanced limit) {index : Nat} {f : Frame}
    (h : s.held[index]? = some (some f.body)) : Balanced limit (s.write index f).2 := by
  have hreleased := hs.release h
  rcases Nat.lt_or_ge (Frame.clampLimit s.reader.limit) f.body.octets.length with hlarge | hsize
  · rw [write_of_lt hlarge]
    exact hreleased
  · rw [write_of_le hsize]
    exact ⟨hreleased.limit_eq, hreleased.live_eq, hreleased.adopted_eq⟩

/-! ## Runs -/

/-- **Every call keeps the books.** -/
theorem Balanced.perform (hs : s.Balanced limit) (call : Call) :
    Balanced limit (s.perform call) := by
  cases call with
  | feed octets => exact ⟨hs.limit_eq, hs.live_eq, hs.adopted_eq⟩
  | ask last registry hold =>
    obtain ⟨outcome, hask, hlimit, htracked⟩ := s.ask_eq last registry hold
    rw [CodecSession.perform, hask]
    exact hs.receive hlimit htracked
  | adopt octets => exact hs.retain ⟨octets, true⟩
  | detach octets => exact hs.retain (.detached octets)
  | write index f =>
    rw [CodecSession.perform]
    split
    · next b hb => exact hs.write (getElem?_of_handle? hb)
    · exact hs
  | retain index =>
    rw [CodecSession.perform]
    split
    · next b hb => exact hs.retain b
    · exact hs
  | release index =>
    rw [CodecSession.perform, CodecSession.release]
    split
    · next b hb => exact hs.release hb
    · exact hs

theorem balanced_ofLimit (limit : Nat) : Balanced limit (ofLimit limit) := ⟨rfl, rfl, rfl⟩

theorem balanced_after (limit : Nat) (calls : List Call) : Balanced limit (after limit calls) := by
  have hrun (s : CodecSession) (hs : s.Balanced limit) :
      Balanced limit (calls.foldl CodecSession.perform s) := by
    induction calls generalizing s with
    | nil => exact hs
    | cons call calls ih => exact ih _ (hs.perform call)
  exact hrun _ (balanced_ofLimit limit)

/-- **Bodies are accounted for.** After any calls, the live bodies are the tracked ones that were
not released, and they are those adopted less those released. A frame that is read then adopts one
body, and nothing else that comes of asking does. A frame that is written, or refused for its size,
releases its body once; only one within the limit appends octets, a header and its body. Writing
leaves the reader as it is, and reading leaves what was written. -/
theorem bodies_accounted (limit : Nat) (calls : List Call) :
    (after limit calls).arena.live = (after limit calls).tracked ∧
    (after limit calls).arena.adopted =
      (after limit calls).arena.live + (after limit calls).arena.released ∧
    (∀ last registry hold,
      (after limit calls).Asks hold ((after limit calls).ask last registry hold)) ∧
    ∀ index b (f : Frame), (after limit calls).handle? index = some b →
      (after limit calls).Writes limit index { f with body := b }
        ((after limit calls).write index { f with body := b }) := by
  have hs := balanced_after limit calls
  refine ⟨hs.live_eq, hs.adopted_eq, fun last registry hold ↦ ?_, fun index b f hb ↦ ?_⟩
  · obtain ⟨outcome, hask, -, htracked⟩ := ask_eq (after limit calls) last registry hold
    rw [hask]
    exact asks_receive htracked
  · exact hs.writes (getElem?_of_handle? hb)

end CodecSession

end RpcTransport
