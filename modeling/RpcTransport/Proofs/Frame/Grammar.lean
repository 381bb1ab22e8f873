import Mathlib.Algebra.Group.Nat.Defs
import Mathlib.Data.List.Basic
import RpcTransport.Frame.Codec

/-!
# The grammar of a stream of frames

A stream is read from a frame boundary by looking at all of it at once. It holds frames, as long as
there are any, and then ends in one of four ways: at a boundary, inside a frame, with octets that
are not the magic, or with a header that announces too large a body. `parse` is this reading. It has
no state, and nothing in it speaks of how the octets arrived.

## Growing a stream

A `Reader` sees only a front part of the stream at a time, so what matters is how `parse` behaves
when octets are added at the end. A whole frame stays a whole frame, and a refusal stays a refusal;
only `done` and `incomplete` are open. Hence `parse_append`: reading a longer stream is reading the
front part and then the octets it left together with the new ones.
-/

namespace RpcTransport.Frame

/-! ## The start of a stream -/

/-- How the frames of a stream come to an end. -/
inductive StreamEnd where
  /-- At a frame boundary. -/
  | done
  /-- Inside a frame. -/
  | incomplete
  | unknownProtocol
  | payloadTooLarge (size limit : Nat)
deriving DecidableEq, Repr

/-- An end that no further octets can mend. -/
def StreamEnd.IsRefusal : StreamEnd → Prop
  | .done | .incomplete => False
  | .unknownProtocol | .payloadTooLarge _ _ => True

/-- What a stream begins with. -/
inductive Item where
  | frame (octets rest : Bytes)
  | stop (ending : StreamEnd)
deriving DecidableEq, Repr

/-- The first frame of a stream, or why there is none. -/
def nextItem (limit : Nat) (s : Bytes) : Item :=
  if s = [] then .stop .done
  else if s.take 2 ≠ [0xda, 0xbb].take s.length then .stop .unknownProtocol
  else if s.length < 16 then .stop .incomplete
  else if min limit (2 ^ 32 - 1) < announcedSize s then
    .stop (.payloadTooLarge (announcedSize s) (min limit (2 ^ 32 - 1)))
  else if s.length < 16 + announcedSize s then .stop .incomplete
  else .frame (s.take (16 + announcedSize s)) (s.drop (16 + announcedSize s))

/-- The octets of one frame, and no more. -/
structure IsWhole (limit : Nat) (octets : Bytes) : Prop where
  magic : octets.take 2 = [0xda, 0xbb]
  length : octets.length = 16 + announcedSize octets
  size_le : announcedSize octets ≤ min limit (2 ^ 32 - 1)

theorem announcedSize_append {s : Bytes} (h : 16 ≤ s.length) (t : Bytes) :
    announcedSize (s ++ t) = announcedSize s := by
  rw [announcedSize, announcedSize, List.drop_append_of_le_length (by omega),
    List.take_append_of_le_length (by rw [List.length_drop]; omega)]

theorem IsWhole.headerSize_le {limit : Nat} {octets : Bytes} (h : IsWhole limit octets) :
    16 ≤ octets.length := by
  rw [h.length]
  omega

/-- A whole frame is read off the front of a stream, whatever comes after it. -/
theorem IsWhole.nextItem_append {limit : Nat} {octets : Bytes} (h : IsWhole limit octets)
    (t : Bytes) : nextItem limit (octets ++ t) = .frame octets t := by
  have hlen := h.headerSize_le
  have hsize : announcedSize (octets ++ t) = announcedSize octets := announcedSize_append hlen t
  have hne : octets ++ t ≠ [] := fun hnil ↦ by
    rw [(List.append_eq_nil_iff.mp hnil).1] at hlen
    exact absurd hlen (by decide)
  have hmagic : (octets ++ t).take 2 = [0xda, 0xbb].take (octets ++ t).length := by
    have htwo : ([0xda, 0xbb] : Bytes).length ≤ (octets ++ t).length := by
      rw [List.length_append]
      exact Nat.le_trans (by decide) (Nat.le_add_right_of_le hlen)
    rw [List.take_append_of_le_length (by omega), h.magic, List.take_of_length_le htwo]
  have hle := h.size_le
  rw [nextItem, if_neg hne, if_neg (not_not.mpr hmagic),
    if_neg (by rw [List.length_append]; omega), hsize, if_neg (by omega),
    if_neg (by rw [List.length_append, h.length]; omega), ← h.length, List.take_left,
    List.drop_left]

/-- What `nextItem` gives as a frame is the front of the stream, and whole. -/
theorem isWhole_of_nextItem {limit : Nat} {s octets rest : Bytes}
    (h : nextItem limit s = .frame octets rest) : s = octets ++ rest ∧ IsWhole limit octets := by
  rw [nextItem] at h
  split at h
  · cases h
  split at h
  · cases h
  next hmagic =>
  split at h
  · cases h
  next hlen =>
  split at h
  · cases h
  next hsize =>
  split at h
  · cases h
  next hwhole =>
  obtain ⟨rfl, rfl⟩ : s.take (16 + announcedSize s) = octets ∧ _ = rest := by
    simpa only [Item.frame.injEq] using h
  have hsame : announcedSize (s.take (16 + announcedSize s)) = announcedSize s := by
    conv_rhs => rw [← List.take_append_drop (16 + announcedSize s) s]
    rw [announcedSize_append]
    rw [List.length_take]
    omega
  refine ⟨(List.take_append_drop _ _).symm, ?_, ?_, ?_⟩
  · rw [List.take_take, Nat.min_eq_left (by omega), not_not.mp hmagic,
      List.take_of_length_le (by rw [List.length_cons, List.length_singleton]; omega)]
  · rw [hsame, List.length_take]
    omega
  · rw [hsame]
    omega

theorem nextItem_frame_append {limit : Nat} {s octets rest : Bytes}
    (h : nextItem limit s = .frame octets rest) (t : Bytes) :
    nextItem limit (s ++ t) = .frame octets (rest ++ t) := by
  obtain ⟨rfl, hwhole⟩ := isWhole_of_nextItem h
  rw [List.append_assoc]
  exact hwhole.nextItem_append _

theorem length_rest_lt {limit : Nat} {s octets rest : Bytes}
    (h : nextItem limit s = .frame octets rest) : rest.length < s.length := by
  obtain ⟨rfl, hwhole⟩ := isWhole_of_nextItem h
  have := hwhole.headerSize_le
  rw [List.length_append]
  omega

/-- Octets that are not the magic do not become it. -/
theorem magic_ne_append {s : Bytes} (hne : s ≠ []) (t : Bytes)
    (h : s.take 2 ≠ [0xda, 0xbb].take s.length) :
    (s ++ t).take 2 ≠ [0xda, 0xbb].take (s ++ t).length := by
  match s with
  | [] => exact absurd rfl hne
  -- A single octet was compared with the first of the magic only, and it is still the first.
  | [a] =>
    have ha : a ≠ 0xda := by simpa using h
    cases t <;> simp [ha]
  | a :: b :: r => simpa using h

/-- **Refusals are final.** -/
theorem nextItem_refusal_append {limit : Nat} {s : Bytes} {e : StreamEnd} (he : e.IsRefusal)
    (h : nextItem limit s = .stop e) (t : Bytes) : nextItem limit (s ++ t) = .stop e := by
  rw [nextItem] at h
  split at h
  · cases h
    exact he.elim
  next hne =>
  have hne' : s ++ t ≠ [] := fun hnil ↦ hne (List.append_eq_nil_iff.mp hnil).1
  split at h
  · next hmagic =>
    cases h
    rw [nextItem, if_neg hne', if_pos (magic_ne_append hne t hmagic)]
  next hmagic =>
  split at h
  · cases h
    exact he.elim
  next hlen =>
  split at h
  · next hsize =>
    cases h
    have hsame := announcedSize_append (s := s) (by omega) t
    have hmagic' : (s ++ t).take 2 = [0xda, 0xbb].take (s ++ t).length := by
      have htwo : ([0xda, 0xbb] : Bytes).length ≤ s.length := by
        rw [List.length_cons, List.length_singleton]
        omega
      rw [List.take_append_of_le_length (by omega), not_not.mp hmagic, List.take_of_length_le htwo,
        List.take_of_length_le (Nat.le_trans htwo (by rw [List.length_append]; omega))]
    rw [nextItem, if_neg hne', if_neg (not_not.mpr hmagic'),
      if_neg (by rw [List.length_append]; omega), hsame, if_pos hsize]
  split at h
  · cases h
    exact he.elim
  · cases h

/-! ## The whole stream -/

/-- A stream taken apart: the octets of its frames, its end, and what is left there. -/
structure Parse where
  frames : List Bytes
  ending : StreamEnd
  rest : Bytes
deriving DecidableEq, Repr

/-- The frames of a stream up to its end. -/
def parse (limit : Nat) (s : Bytes) : Parse :=
  match _h : nextItem limit s with
  | .stop e => ⟨[], e, s⟩
  | .frame octets rest =>
    let others := parse limit rest
    { others with frames := octets :: others.frames }
termination_by s.length
decreasing_by exact length_rest_lt _h

theorem parse_of_stop {limit : Nat} {s : Bytes} {e : StreamEnd} (h : nextItem limit s = .stop e) :
    parse limit s = ⟨[], e, s⟩ := by
  rw [parse]
  split
  · next heq => rw [h] at heq; cases heq; rfl
  · next heq => rw [h] at heq; cases heq

theorem parse_of_frame {limit : Nat} {s octets rest : Bytes}
    (h : nextItem limit s = .frame octets rest) :
    parse limit s = { parse limit rest with frames := octets :: (parse limit rest).frames } := by
  rw [parse]
  split
  · next heq => rw [h] at heq; cases heq
  · next heq => rw [h] at heq; cases heq; rfl

/-- Induction along the frames of a stream. -/
theorem parse_induction (limit : Nat) {P : Bytes → Prop}
    (stop : ∀ s e, nextItem limit s = .stop e → P s)
    (frame : ∀ s octets rest, nextItem limit s = .frame octets rest → P rest → P s) (s : Bytes) :
    P s := by
  induction hn : s.length using Nat.strongRecOn generalizing s with
  | _ n ih =>
    cases h : nextItem limit s with
    | stop e => exact stop s e h
    | frame octets rest =>
      exact frame s octets rest h (ih _ (hn ▸ length_rest_lt h) rest rfl)

/-- A stream is its frames and what is left: nothing is skipped. -/
theorem flatten_parse (limit : Nat) (s : Bytes) :
    (parse limit s).frames.flatten ++ (parse limit s).rest = s := by
  induction s using parse_induction limit with
  | stop s e h => rw [parse_of_stop h, List.flatten_nil, List.nil_append]
  | frame s octets rest h ih =>
    rw [parse_of_frame h, List.flatten_cons, List.append_assoc, ih]
    exact (isWhole_of_nextItem h).1.symm

/-- What is left does not begin with a frame. -/
theorem nextItem_rest (limit : Nat) (s : Bytes) :
    nextItem limit (parse limit s).rest = .stop (parse limit s).ending := by
  induction s using parse_induction limit with
  | stop s e h => rw [parse_of_stop h, h]
  | frame s octets rest h ih => rw [parse_of_frame h, ih]

/-- **Reading on.** -/
theorem parse_append (limit : Nat) (s t : Bytes) :
    parse limit (s ++ t) =
      { parse limit ((parse limit s).rest ++ t) with
        frames := (parse limit s).frames ++ (parse limit ((parse limit s).rest ++ t)).frames } := by
  induction s using parse_induction limit with
  | stop s e h => rw [parse_of_stop h]; rfl
  | frame s octets rest h ih =>
    rw [parse_of_frame (nextItem_frame_append h t), ih, parse_of_frame h]
    rfl

theorem parse_append_of_refusal {limit : Nat} {s : Bytes} (h : (parse limit s).ending.IsRefusal)
    (t : Bytes) :
    parse limit (s ++ t) = { parse limit s with rest := (parse limit s).rest ++ t } := by
  rw [parse_append, parse_of_stop (nextItem_refusal_append h (nextItem_rest limit s) t)]
  simp only [List.append_nil]

/-- Whole frames, one after the other, are read as these frames. -/
theorem parse_flatten {limit : Nat} {frames : List Bytes} (h : ∀ f ∈ frames, IsWhole limit f) :
    parse limit frames.flatten = ⟨frames, .done, []⟩ := by
  induction frames with
  | nil => exact parse_of_stop rfl
  | cons f frames ih =>
    rw [List.flatten_cons, parse_of_frame ((h f List.mem_cons_self).nextItem_append _),
      ih fun g hg ↦ h g (List.mem_cons_of_mem f hg)]

end RpcTransport.Frame
