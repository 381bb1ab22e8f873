import RpcTransport.Json.Reader

/-!
# JSON readers leave the end of their input

On whatever octets, a reader that succeeds leaves a part of them that ends where they end, and no
reader makes up octets or goes back. That is one law for every reader (`Leaves`), carried through
loops and nested values by the fact that parts of parts are parts. A reader of a document leaves a
part of the tail: it has taken at least the first octet (`leaves_nextDocument`).
-/

namespace RpcTransport.Json

variable {α β γ : Type} {bs bs' : Bytes}

/-- What a step leaves, if it succeeds, is the end of some octets. -/
def Leaves (left : β → Bytes) (step : Except Fault β) (bs : Bytes) : Prop :=
  ∀ y, step = .ok y → left y <:+ bs

namespace Leaves

variable {left : β → Bytes} {left' : γ → Bytes} {step : Except Fault β} {y : β}

theorem error {e : Fault} : Leaves left (.error e) bs := fun _ h ↦ nomatch h

theorem ok (h : left y <:+ bs) : Leaves left (.ok y) bs := fun _ hy ↦ Except.ok.inj hy ▸ h

theorem mono (h : Leaves left step bs) (hbs : bs <:+ bs') : Leaves left step bs' :=
  fun y hy ↦ (h y hy).trans hbs

theorem bind {next : β → Except Fault γ} (h : Leaves left step bs)
    (hnext : ∀ y, Leaves left' (next y) (left y)) : Leaves left' (step >>= next) bs := by
  cases step with
  | error e => exact error
  | ok y => exact (hnext y).mono (h y rfl)

theorem map {f : β → γ} (h : Leaves left step bs) (hf : ∀ y, left' (f y) = left y) :
    Leaves left' (step.map f) bs := by
  cases step with
  | error e => exact error
  | ok y => exact ok (hf y ▸ h y rfl)

end Leaves

theorem skipSpace_suffix (bs : Bytes) : skipSpace bs <:+ bs := List.dropWhile_suffix _

theorem suffix_tail_of_cons {b : UInt8} {rest : Bytes} (h : b :: rest <:+ bs) :
    rest <:+ bs.tail := by
  cases bs with
  | nil => exact absurd (List.suffix_nil.mp h) (List.cons_ne_nil b rest)
  | cons c more =>
    rcases List.suffix_cons_iff.mp h with heq | hmore
    · rw [(List.cons.inj heq).2]
      exact List.suffix_refl more
    · exact (List.suffix_cons b rest).trans hmore

/-- Behind blanks and one octet more. -/
theorem suffix_tail_of_skipSpace {b : UInt8} {rest : Bytes} (h : skipSpace bs = b :: rest) :
    rest <:+ bs.tail :=
  suffix_tail_of_cons (h ▸ skipSpace_suffix bs)

theorem suffix_of_skipSpace {b : UInt8} {rest : Bytes} (h : skipSpace bs = b :: rest) :
    rest <:+ bs :=
  (suffix_tail_of_skipSpace h).trans (List.tail_suffix bs)

theorem leaves_word (expected bs : Bytes) : Leaves id (word expected bs) bs := by
  induction expected generalizing bs with
  | nil => exact .ok (List.suffix_refl bs)
  | cons e expected ih =>
    cases bs with
    | nil => exact .error
    | cons b rest =>
      rw [word]
      split
      · exact (ih rest).mono (List.suffix_cons b rest)
      · exact .error

/-! ## Numbers -/

theorem gather_suffix (significand count : Nat) (bs : Bytes) :
    (gather significand count bs).2.2 <:+ bs := by
  induction bs generalizing significand count with
  | nil => exact List.suffix_refl _
  | cons b rest ih =>
    rw [gather]
    split
    · exact (ih _ _).trans (List.suffix_cons b rest)
    · exact List.suffix_refl _

theorem dropDigits_suffix (count : Nat) (bs : Bytes) : (dropDigits count bs).2 <:+ bs := by
  induction bs generalizing count with
  | nil => exact List.suffix_refl _
  | cons b rest ih =>
    rw [dropDigits]
    split
    · exact (ih _).trans (List.suffix_cons b rest)
    · exact List.suffix_refl _

theorem gatherExponent_suffix (exponent : Nat) (bs : Bytes) :
    (gatherExponent exponent bs).2 <:+ bs := by
  induction bs generalizing exponent with
  | nil => exact List.suffix_refl _
  | cons b rest ih =>
    rw [gatherExponent]
    dsimp only
    split
    · split
      · exact (ih _).trans (List.suffix_cons b rest)
      · exact List.suffix_cons b rest
    · exact List.suffix_refl _

section Numbers

variable (negative : Bool) (significand : Nat)

theorem leaves_scaled (exponent : Int) (bs : Bytes) :
    Leaves Prod.snd (scaled negative significand exponent bs) bs := by
  rw [scaled]
  split
  · exact .ok (List.suffix_refl bs)
  · exact .error

theorem leaves_exponentDigits (start : Int) (down : Bool) (bs : Bytes) :
    Leaves Prod.snd (exponentDigits negative significand start down bs) bs := by
  cases bs with
  | nil => exact .error
  | cons b rest =>
    have hdigits := gatherExponent_suffix (b.toNat - 48) rest
    rw [exponentDigits]
    split
    · split
      · next e left heq =>
        rw [heq] at hdigits
        exact (leaves_scaled _ _ _ left).mono (hdigits.trans (List.suffix_cons b rest))
      · next left heq =>
        rw [heq] at hdigits
        split
        · exact .error
        · exact (leaves_scaled _ _ _ _).mono
            ((dropDigits_suffix 0 left).trans (hdigits.trans (List.suffix_cons b rest)))
    · exact .error

theorem leaves_exponentPart (start : Int) (bs : Bytes) :
    Leaves Prod.snd (exponentPart negative significand start bs) bs := by
  rw [exponentPart.eq_def]
  split
  · exact (leaves_exponentDigits _ _ _ _ _).mono (List.suffix_cons _ _)
  · exact (leaves_exponentDigits _ _ _ _ _).mono (List.suffix_cons _ _)
  · exact leaves_exponentDigits _ _ _ _ _

theorem leaves_exponentOrEnd (exponent : Int) (bs : Bytes) :
    Leaves Prod.snd (exponentOrEnd negative significand exponent bs) bs := by
  cases bs with
  | nil => exact leaves_scaled _ _ _ _
  | cons b rest =>
    rw [exponentOrEnd]
    split
    · exact (leaves_exponentPart _ _ _ rest).mono (List.suffix_cons b rest)
    · exact leaves_scaled _ _ _ _

theorem leaves_fractionPart (exponent : Int) (bs : Bytes) :
    Leaves Prod.snd (fractionPart negative significand exponent bs) bs := by
  have hdigits := gather_suffix significand 0 bs
  rw [fractionPart]
  dsimp only
  split
  · exact (leaves_exponentOrEnd _ _ _ _).mono ((dropDigits_suffix 0 _).trans hdigits)
  split
  · split
    · exact .error
    · exact .error
  · exact (leaves_exponentOrEnd _ _ _ _).mono hdigits

theorem leaves_wholeEnd (bs : Bytes) :
    Leaves Prod.snd (afterDigits.wholeEnd negative significand bs) bs := by
  rw [afterDigits.wholeEnd]
  split
  · exact .ok (List.suffix_refl bs)
  · exact .error

theorem leaves_afterDigits (bs : Bytes) :
    Leaves Prod.snd (afterDigits negative significand bs) bs := by
  rw [afterDigits.eq_def]
  split
  · exact (leaves_fractionPart _ _ _ _).mono (List.suffix_cons _ _)
  split
  · split
    · exact (leaves_exponentPart _ _ _ _).mono (List.suffix_cons _ _)
    · exact leaves_wholeEnd _ _ _
  · exact leaves_wholeEnd _ _ _

theorem leaves_longInteger (bs : Bytes) :
    Leaves Prod.snd (longInteger negative significand bs) bs := by
  have hdigits := dropDigits_suffix 0 bs
  rw [longInteger]
  split
  · next count rest heq =>
    rw [heq] at hdigits
    exact (leaves_fractionPart _ _ _ rest).mono ((List.suffix_cons _ rest).trans hdigits)
  · next heq =>
    rw [heq] at hdigits
    exact (leaves_exponentOrEnd _ _ _ _).mono hdigits

end Numbers

/-- A number has a digit at least. -/
theorem leaves_number (negative : Bool) (bs : Bytes) :
    Leaves Prod.snd (number negative bs) bs.tail := by
  cases bs with
  | nil => exact .error
  | cons b rest =>
    have hdigits := gather_suffix (b.toNat - 48) 1 rest
    rw [number, List.tail_cons]
    split
    · split
      · exact .error
      · exact leaves_afterDigits _ _ rest
    split
    · dsimp only
      split
      · exact (leaves_longInteger _ _ _).mono hdigits
      · exact (leaves_afterDigits _ _ _).mono hdigits
    · exact .error

/-! ## Text -/

theorem leaves_fourDigits (bs : Bytes) : Leaves Prod.snd (fourDigits bs) bs := by
  rw [fourDigits.eq_def]
  split
  · next a b c d rest =>
    split
    · exact .ok ⟨[a, b, c, d], rfl⟩
    · exact .error
  · exact .error

theorem leaves_demand (expected : UInt8) (bs : Bytes) : Leaves id (demand expected bs) bs := by
  cases bs with
  | nil => exact .error
  | cons b rest =>
    rw [demand]
    split
    · exact .ok (List.suffix_cons b rest)
    · exact .error

theorem leaves_unicodeEscape (bs : Bytes) : Leaves Prod.snd (unicodeEscape bs) bs := by
  refine (leaves_fourDigits bs).bind fun (n, rest) ↦ ?_
  dsimp only
  split
  · exact .error
  split
  · refine (leaves_demand 0x5c rest).bind fun rest ↦ ?_
    refine (leaves_demand 0x75 rest).bind fun rest ↦ ?_
    refine (leaves_fourDigits rest).bind fun (m, rest) ↦ ?_
    dsimp only
    split
    · exact .ok (List.suffix_refl rest)
    · exact .error
  · exact .ok (List.suffix_refl rest)

theorem leaves_unescape (bs : Bytes) : Leaves Prod.snd (unescape bs) bs := by
  cases bs with
  | nil => exact .error
  | cons b rest =>
    rw [unescape]
    split
    · exact (leaves_unicodeEscape rest).mono (List.suffix_cons b rest)
    split
    · exact .ok (List.suffix_cons b rest)
    · exact .error

theorem leaves_quotedOctets (fuel : Nat) (done bs : Bytes) :
    Leaves Prod.snd (quotedOctets fuel done bs) bs := by
  induction fuel generalizing done bs with
  | zero => exact .error
  | succ fuel ih =>
    cases bs with
    | nil => exact .error
    | cons b rest =>
      have hrest := List.suffix_cons b rest
      rw [quotedOctets]
      split
      · exact .ok hrest
      split
      · split
        · exact .error
        · next octets left heq => exact (ih _ left).mono ((leaves_unescape rest _ heq).trans hrest)
      split
      · exact .error
      · exact (ih _ rest).mono hrest

theorem leaves_quotedText (fuel : Nat) (bs : Bytes) : Leaves Prod.snd (quotedText fuel bs) bs := by
  rw [quotedText]
  split
  · exact .error
  · next octets rest heq =>
    split
    · exact .ok (leaves_quotedOctets fuel [] bs _ heq)
    · exact .error

/-! ## Passing over a value -/

theorem leaves_skipExponent (bs : Bytes) : Leaves id (skipExponent bs) bs := by
  have hdigits (digits : Bytes) : Leaves id (if startsWithDigit digits then .ok (skipDigits digits)
      else .error (.next .invalidNumber digits)) digits := by
    split
    · exact .ok (List.dropWhile_suffix _)
    · exact .error
  rw [skipExponent.eq_def]
  dsimp only
  split
  · exact (hdigits _).mono (List.suffix_cons _ _)
  · exact (hdigits _).mono (List.suffix_cons _ _)
  · exact hdigits bs

theorem leaves_skipExponentOrEnd (bs : Bytes) : Leaves id (skipExponentOrEnd bs) bs := by
  cases bs with
  | nil => exact .ok (List.suffix_refl _)
  | cons b rest =>
    rw [skipExponentOrEnd]
    split
    · exact (leaves_skipExponent rest).mono (List.suffix_cons b rest)
    · exact .ok (List.suffix_refl _)

theorem leaves_skipFraction (bs : Bytes) : Leaves id (skipFraction bs) bs := by
  rw [skipFraction.eq_def]
  split
  · next rest =>
    split
    · exact (leaves_skipExponentOrEnd _).mono
        ((List.dropWhile_suffix _).trans (List.suffix_cons _ rest))
    · exact .error
  · exact leaves_skipExponentOrEnd _

theorem leaves_skipNumber (bs : Bytes) : Leaves id (skipNumber bs) bs.tail := by
  cases bs with
  | nil => exact .error
  | cons b rest =>
    rw [skipNumber, List.tail_cons]
    split
    · split
      · exact .error
      · exact leaves_skipFraction rest
    split
    · exact (leaves_skipFraction _).mono (List.dropWhile_suffix _)
    · exact .error

theorem leaves_skipText (fuel : Nat) (bs : Bytes) : Leaves id (skipText fuel bs) bs := by
  induction fuel generalizing bs with
  | zero => exact .error
  | succ fuel ih =>
    cases bs with
    | nil => exact .error
    | cons b rest =>
      have hrest := List.suffix_cons b rest
      have hescape : Leaves id (skipEscape rest) rest := by
        cases rest with
        | nil => exact .error
        | cons c more =>
          have hmore := List.suffix_cons c more
          rw [skipEscape]
          split
          · refine Leaves.mono ?_ hmore
            exact (leaves_fourDigits more).map fun _ ↦ rfl
          split
          · exact .ok hmore
          · exact .error
      rw [skipText]
      split
      · exact .ok hrest
      split
      · split
        · exact .error
        · next left heq => exact (ih left).mono ((hescape _ heq).trans hrest)
      split
      · exact .error
      · exact (ih rest).mono hrest

theorem leaves_skipScalar (fuel : Nat) (b : UInt8) (rest : Bytes) :
    Leaves id (skipScalar fuel b rest) rest := by
  rw [skipScalar]
  iterate 3
    split
    · exact leaves_word _ rest
  split
  · exact (leaves_skipNumber rest).mono (List.tail_suffix rest)
  split
  · exact leaves_skipNumber (b :: rest)
  split
  · exact leaves_skipText fuel rest
  · exact .error

theorem leaves_skipKey (fuel : Nat) (bs : Bytes) : Leaves id (skipKey fuel bs) bs := by
  rw [skipKey]
  split
  · exact .error
  · next b rest hskip =>
    have hrest := suffix_of_skipSpace hskip
    split
    · split
      · exact .error
      · next left htext =>
        have hleft : left <:+ bs := (leaves_skipText fuel rest _ htext).trans hrest
        split
        · exact .error
        · next c more hcolon =>
          have hmore := suffix_of_skipSpace hcolon
          split
          · exact .ok (hmore.trans hleft)
          · exact .error
    · exact .error

theorem leaves_passOver (textFuel fuel : Nat) (state : Passing) (enclosing : List Bracket)
    (bs : Bytes) : Leaves id (passOver textFuel fuel state enclosing bs) bs := by
  induction fuel generalizing state enclosing bs with
  | zero => exact .error
  | succ fuel ih =>
    rw [passOver.eq_def]
    dsimp only
    split
    · split
      · exact .error
      · next b rest hskip =>
        have hrest := suffix_of_skipSpace hskip
        split
        · exact (ih _ _ rest).mono hrest
        split
        · exact (ih _ _ rest).mono hrest
        split
        · exact .error
        · next left heq =>
          exact (ih _ _ left).mono ((leaves_skipScalar textFuel b rest _ heq).trans hrest)
    · exact .ok (List.suffix_refl bs)
    · split
      · exact .error
      · next b rest hskip =>
        have hrest := suffix_of_skipSpace hskip
        have hitem : (if state = .ended then rest else b :: rest) <:+ bs := by
          split
          · exact hrest
          · exact hskip ▸ skipSpace_suffix bs
        split
        · exact (ih _ _ rest).mono hrest
        split
        · exact .error
        split
        · exact (ih _ _ _).mono hitem
        · split
          · exact .error
          · next left heq =>
            exact (ih _ _ left).mono ((leaves_skipKey textFuel _ _ heq).trans hitem)

theorem leaves_skipValue (bs : Bytes) : Leaves id (skipValue bs) bs := leaves_passOver _ _ _ _ bs

/-! ## Loops -/

def Next.rest : Next → Bytes
  | .item rest => rest
  | .closed rest => rest

theorem leaves_nextElement (first : Bool) (bs : Bytes) :
    Leaves Next.rest (nextElement first bs) bs := by
  rw [nextElement]
  split
  · exact .error
  · next b rest hskip =>
    have hall : b :: rest <:+ bs := hskip ▸ skipSpace_suffix bs
    have hrest := (List.suffix_cons b rest).trans hall
    split
    · exact .ok hrest
    split
    · exact .ok hall
    split
    · split
      · exact .error
      · next c more hmore =>
        split
        · exact .error
        · exact .ok ((hmore ▸ skipSpace_suffix rest : c :: more <:+ rest).trans hrest)
    · exact .error

theorem leaves_nextMember (first : Bool) (bs : Bytes) :
    Leaves Next.rest (nextMember first bs) bs := by
  rw [nextMember]
  split
  · exact .error
  · next b rest hskip =>
    have hrest := suffix_of_skipSpace hskip
    split
    · exact .ok hrest
    split
    · split
      · exact .ok hrest
      · exact .error
    split
    · split
      · exact .error
      · next c more hmore =>
        have hmore := suffix_of_skipSpace hmore
        split
        · exact .ok (hmore.trans hrest)
        split
        · exact .error
        · exact .error
    · exact .error

theorem leaves_elements {item : Parser α} (hitem : ∀ bs, Leaves Prod.snd (item bs) bs) (fuel : Nat)
    (first : Bool) (done : List α) (bs : Bytes) :
    Leaves Prod.snd (elements item fuel first done bs) bs := by
  induction fuel generalizing first done bs with
  | zero => exact .error
  | succ fuel ih =>
    rw [elements]
    split
    · exact .error
    · next rest hnext => exact .ok (leaves_nextElement first bs _ hnext)
    · next rest hnext =>
      have hrest := leaves_nextElement first bs _ hnext
      split
      · exact .error
      · next x left heq => exact (ih _ _ left).mono ((hitem rest _ heq).trans hrest)

theorem leaves_members {step : String → γ → Parser γ}
    (hstep : ∀ key known bs, Leaves Prod.snd (step key known bs) bs) (textFuel fuel : Nat)
    (first : Bool) (known : γ) (bs : Bytes) :
    Leaves Prod.snd (members textFuel step fuel first known bs) bs := by
  induction fuel generalizing first known bs with
  | zero => exact .error
  | succ fuel ih =>
    rw [members]
    split
    · exact .error
    · next rest hnext => exact .ok (leaves_nextMember first bs _ hnext)
    · next rest hnext =>
      have hrest := leaves_nextMember first bs _ hnext
      split
      · exact .error
      · next key more hkey =>
        have hmore := (leaves_quotedText textFuel rest _ hkey).trans hrest
        split
        · exact .error
        · next known' left heq => exact (ih _ _ left).mono ((hstep _ _ more _ heq).trans hmore)

theorem leaves_colon (bs : Bytes) : Leaves id (colon bs) bs := by
  rw [colon]
  split
  · exact .error
  · next b rest hskip =>
    split
    · exact .ok (suffix_of_skipSpace hskip)
    · exact .error

/-- What a member has is behind the colon. -/
theorem leaves_behind_colon {p : Parser α} (hp : ∀ bs, Leaves Prod.snd (p bs) bs) (f : α → β)
    (bs : Bytes) :
    Leaves Prod.snd (do
      let (y, rest) ← p (← colon bs)
      return (f y, rest)) bs :=
  (leaves_colon bs).bind fun rest ↦ (hp rest).bind fun (_, left) ↦ .ok (List.suffix_refl left)

/-! ## Values -/

theorem leaves_container {nested : Option (Parser Value)}
    (hnested : ∀ item ∈ nested, ∀ bs, Leaves Prod.snd (item bs) bs) (fuel : Nat) (object : Bool)
    (bs : Bytes) : Leaves Prod.snd (container fuel nested object bs) bs.tail := by
  cases nested with
  | none => exact .error
  | some item =>
    have hitem := hnested item rfl
    rw [container]
    dsimp only
    split
    · exact (leaves_members (fun key known ↦ leaves_behind_colon hitem (insertEntry key · known))
        fuel fuel true [] bs.tail).map fun _ ↦ rfl
    · exact (leaves_elements hitem fuel true [] bs.tail).map fun _ ↦ rfl

theorem leaves_valueWith {nested : Option (Parser Value)}
    (hnested : ∀ item ∈ nested, ∀ bs, Leaves Prod.snd (item bs) bs) (fuel : Nat) (bs : Bytes) :
    Leaves Prod.snd (valueWith fuel nested bs) bs.tail := by
  rw [valueWith]
  split
  · exact .error
  · next b rest hskip =>
    refine Leaves.mono ?_ (suffix_tail_of_skipSpace hskip)
    iterate 3
      split
      · exact (leaves_word _ rest).map fun _ ↦ rfl
    split
    · exact ((leaves_number true rest).mono (List.tail_suffix rest)).map fun _ ↦ rfl
    split
    · exact (leaves_number false (b :: rest)).map fun _ ↦ rfl
    split
    · exact (leaves_quotedText fuel rest).map fun _ ↦ rfl
    split
    · exact leaves_container hnested fuel false (b :: rest)
    split
    · exact leaves_container hnested fuel true (b :: rest)
    · exact .error

/-- Where nothing may nest. -/
theorem leaves_valueWith_none (fuel : Nat) (bs : Bytes) :
    Leaves Prod.snd (valueWith fuel none bs) bs.tail := by
  refine leaves_valueWith (fun item hitem ↦ ?_) fuel bs
  exact nomatch hitem

/-- **The reader of values leaves a part of the tail**, however deep it may nest. -/
theorem leaves_value (fuel depth : Nat) (bs : Bytes) :
    Leaves Prod.snd (value fuel depth bs) bs.tail := by
  induction depth generalizing bs with
  | zero => exact leaves_valueWith_none fuel bs
  | succ depth ih =>
    refine leaves_valueWith (fun item hitem bs ↦ ?_) fuel bs
    obtain rfl := Option.some.inj hitem
    exact (ih bs).mono (List.tail_suffix bs)

/-! ## Documents of a known type -/

theorem leaves_wrongType (fuel : Nat) (wanted : String) (b : UInt8) (rest : Bytes)
    (left : α → Bytes) (bs : Bytes) :
    Leaves left (wrongType fuel wanted b rest : Except Fault α) bs := by
  rw [wrongType]
  split
  · exact .error
  split
  · exact .error
  split
  all_goals exact .error

theorem leaves_wholeWithin (fuel : Nat) (wanted : String) (lower upper : Int) (bs : Bytes) :
    Leaves Prod.snd (wholeWithin fuel wanted lower upper bs) bs.tail := by
  rw [wholeWithin]
  split
  · exact .error
  · next b rest hskip =>
    split
    · split
      · exact .error
      · next v left heq =>
        have hleft := leaves_valueWith_none fuel (b :: rest) _ heq
        split
        · split
          · exact .ok (hleft.trans (suffix_tail_of_skipSpace hskip))
          · exact .error
        · exact .error
    · exact leaves_wrongType _ _ _ _ _ _

theorem leaves_textDocument (fuel : Nat) (bs : Bytes) :
    Leaves Prod.snd (textDocument fuel bs) bs.tail := by
  rw [textDocument]
  split
  · exact .error
  · next b rest hskip =>
    split
    · exact (leaves_quotedText fuel rest).mono (suffix_tail_of_skipSpace hskip)
    · exact leaves_wrongType _ _ _ _ _ _

theorem leaves_text (fuel : Nat) (bs : Bytes) : Leaves Prod.snd (textDocument fuel bs) bs :=
  (leaves_textDocument fuel bs).mono (List.tail_suffix bs)

theorem leaves_textMapDocument (fuel : Nat) (bs : Bytes) :
    Leaves Prod.snd (textMapDocument fuel bs) bs.tail := by
  rw [textMapDocument]
  split
  · exact .error
  · next b rest hskip =>
    split
    · have hstep (key : String) (known : TextMap) :=
        leaves_behind_colon (leaves_text fuel) (known.insert key)
      exact (leaves_members hstep fuel fuel true .empty rest).mono (suffix_tail_of_skipSpace hskip)
    · exact leaves_wrongType _ _ _ _ _ _

theorem leaves_addErrorField (fuel : Nat) (key : String) (known : ErrorFields) (bs : Bytes) :
    Leaves Prod.snd (addErrorField fuel key known bs) bs := by
  rw [addErrorField]
  split
  · split
    · exact .error
    · exact leaves_behind_colon (leaves_text fuel) (fun s ↦ { known with kind := some s }) bs
  split
  · split
    · exact .error
    · exact leaves_behind_colon (leaves_text fuel) (fun s ↦ { known with message := some s }) bs
  · exact (leaves_colon bs).bind fun rest ↦ (leaves_skipValue rest).bind fun left ↦
      .ok (List.suffix_refl left)

theorem leaves_requiredText (fuel : Nat) (first : Bool) (bs : Bytes) :
    Leaves Prod.snd (requiredText fuel first bs) bs := by
  rw [requiredText]
  split
  · exact .error
  · exact .error
  · next rest hnext => exact (leaves_text fuel rest).mono (leaves_nextElement first bs _ hnext)

theorem leaves_listEnd (bs : Bytes) : Leaves id (listEnd bs) bs := by
  rw [listEnd]
  split
  · exact .error
  · next b rest hskip =>
    split
    · exact .ok (suffix_of_skipSpace hskip)
    split
    · split
      · exact .error
      · exact .error
    · exact .error

theorem leaves_remoteErrorDocument (fuel : Nat) (bs : Bytes) :
    Leaves Prod.snd (remoteErrorDocument fuel bs) bs.tail := by
  rw [remoteErrorDocument]
  split
  · exact .error
  · next b rest hskip =>
    refine Leaves.mono ?_ (suffix_tail_of_skipSpace hskip)
    split
    · refine (leaves_members (leaves_addErrorField fuel) fuel fuel true .none rest).bind
        fun (fields, left) ↦ ?_
      dsimp only
      cases fields.complete.mapError Fault.mismatch with
      | error e => exact Leaves.error
      | ok e => exact Leaves.ok (List.suffix_refl left)
    split
    · refine (leaves_requiredText fuel true rest).bind fun (kind, more) ↦ ?_
      refine (leaves_requiredText fuel false more).bind fun (message, more) ↦ ?_
      exact (leaves_listEnd more).bind fun left ↦ .ok (List.suffix_refl left)
    · exact leaves_wrongType _ _ _ _ _ _

/-- **A document takes one octet at least**, and what is left of the input is its end. -/
theorem leaves_nextDocument {p : Parser α} (hp : ∀ bs, Leaves Prod.snd (p bs) bs.tail)
    (bs : Bytes) : Leaves Prod.snd (nextDocument p bs) bs.tail := by
  rw [nextDocument]
  split
  · exact .error
  · next b more hskip =>
    have hmore := suffix_tail_of_skipSpace hskip
    split
    · exact .error
    · next x heq => exact .ok ((hp (b :: more) _ heq).trans hmore)
    · next x c rest heq =>
      split
      · exact .ok ((hp (b :: more) _ heq).trans hmore)
      · exact .error

end RpcTransport.Json
