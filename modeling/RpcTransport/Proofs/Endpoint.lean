import Mathlib.Data.List.Infix
import RpcTransport.Endpoint

/-!
# When the text of an endpoint says the same endpoint

What is read as an endpoint is `unix:` and a path, or an address, before which `tcp://` may stand
(`parse_eq_ok_iff`). The text of an endpoint has `unix:` in front of a path and nothing in front of
an address. So an address that looks as if it had a scheme of its own, which it can only have got
from a text with two of them (`Behind`), is another endpoint when its text is read, or none.

Two endpoints have the same text only if they are equal, or if one is a path and the other an
address that was written as `tcp://unix:` and so on.
-/

namespace RpcTransport.Endpoint

variable {s s' : String} {e e' : Endpoint} {scheme cs rest : List Char}

/-! ## What is read as an endpoint -/

theorem strip?_eq_some_iff : strip? scheme cs = some rest ↔ cs = scheme ++ rest := by
  rw [strip?, Option.ite_none_right_eq_some, List.isPrefixOf_iff_prefix, Option.some.injEq]
  constructor
  · rintro ⟨⟨rest, rfl⟩, rfl⟩
    rw [List.drop_left]
  · rintro rfl
    exact ⟨List.prefix_append _ _, List.drop_left⟩

theorem strip?_eq_none_iff : strip? scheme cs = none ↔ ¬ scheme <+: cs := by
  rw [Option.eq_none_iff_forall_ne_some]
  constructor
  · rintro h ⟨rest, rfl⟩
    exact h rest (strip?_eq_some_iff.mpr rfl)
  · intro h rest hrest
    exact h ⟨rest, (strip?_eq_some_iff.mp hrest).symm⟩

/-- The two schemes begin with different letters. -/
theorem not_unix_of_tcp (h : tcpScheme <+: cs) : ¬ unixScheme <+: cs := by
  rintro ⟨path, rfl⟩
  obtain ⟨address, h⟩ := h
  exact absurd (List.cons.inj h).1 (by decide)

theorem parse_of_unix (h : s.toList = unixScheme ++ rest) (hrest : rest ≠ []) :
    parse s = .ok (.unix (String.ofList rest)) := by
  rw [parse, strip?_eq_some_iff.mpr h]
  cases rest with
  | nil => exact absurd rfl hrest
  | cons => rfl

theorem parse_of_address (h : ¬ unixScheme <+: s.toList)
    (hrest : (strip? tcpScheme s.toList).getD s.toList = rest) :
    parse s = if isAddress rest then .ok (.tcp (String.ofList rest))
      else .error (.connectFailed s "expected host:port") := by
  rw [parse, strip?_eq_none_iff.mpr h, ← hrest]

/-- **What is read as an endpoint**: `unix:` and a path, or an address, before which `tcp://` may
stand. -/
theorem parse_eq_ok_iff : parse s = .ok e ↔
    match e with
    | .unix path => s.toList = unixScheme ++ path.toList ∧ path.toList ≠ []
    | .tcp address => isAddress address.toList = true ∧
      (s.toList = tcpScheme ++ address.toList ∨
        s = address ∧ ¬ unixScheme <+: s.toList ∧ ¬ tcpScheme <+: s.toList) := by
  constructor
  · intro h
    by_cases hunix : unixScheme <+: s.toList
    · obtain ⟨path, hpath⟩ := hunix
      rcases eq_or_ne path [] with rfl | hne
      · rw [parse, strip?_eq_some_iff.mpr hpath.symm] at h
        exact nomatch h
      · rw [parse_of_unix hpath.symm hne] at h
        obtain rfl := Except.ok.inj h
        dsimp only
        rw [String.toList_ofList]
        exact ⟨hpath.symm, hne⟩
    · rw [parse_of_address hunix rfl] at h
      split at h
      · next haddress =>
        obtain rfl := Except.ok.inj h
        dsimp only
        rw [String.toList_ofList]
        refine ⟨haddress, ?_⟩
        cases htcp : strip? tcpScheme s.toList with
        | some address => exact .inl (strip?_eq_some_iff.mp htcp)
        | none => exact .inr ⟨String.ofList_toList.symm, hunix, strip?_eq_none_iff.mp htcp⟩
      · exact nomatch h
  · intro h
    cases e with
    | unix path =>
      obtain ⟨hpath, hne⟩ := h
      rw [parse_of_unix hpath hne, String.ofList_toList]
    | tcp address =>
      obtain ⟨haddress, htcp | ⟨rfl, hunix, htcp⟩⟩ := h
      · have hunix := not_unix_of_tcp ⟨address.toList, htcp.symm⟩
        have hrest : (strip? tcpScheme s.toList).getD s.toList = address.toList := by
          rw [strip?_eq_some_iff.mpr htcp]
          rfl
        rw [parse_of_address hunix hrest, if_pos haddress, String.ofList_toList]
      · have hrest : (strip? tcpScheme s.toList).getD s.toList = s.toList := by
          rw [strip?_eq_none_iff.mpr htcp]
          rfl
        rw [parse_of_address hunix hrest, if_pos haddress, String.ofList_toList]

/-! ## Reading the text of an endpoint -/

/-- A text in which a scheme stands behind `tcp://`. -/
def Behind (scheme : List Char) (s : String) : Prop := tcpScheme ++ scheme <+: s.toList

/-- An address that seems to have a scheme. -/
def Bears (scheme : List Char) : Endpoint → Prop
  | .tcp address => scheme <+: address.toList
  | .unix _ => False

/-- What stands behind `tcp://` stands in front of the address that is read. -/
theorem behind_iff_bears (h : parse s = .ok e)
    (hscheme : scheme = unixScheme ∨ scheme = tcpScheme) :
    Behind scheme s ↔ e.Bears scheme := by
  have h := parse_eq_ok_iff.mp h
  cases e with
  | unix path =>
    refine iff_of_false (fun hbehind ↦ ?_) id
    exact not_unix_of_tcp ((List.prefix_append _ _).trans hbehind) ⟨_, h.1.symm⟩
  | tcp address =>
    rcases h.2 with htcp | ⟨rfl, hunix, htcp⟩
    · rw [Behind, htcp, List.prefix_append_right_inj, Bears]
    · refine iff_of_false (fun hbehind ↦ htcp ((List.prefix_append _ _).trans hbehind)) ?_
      rcases hscheme with rfl | rfl
      · exact hunix
      · exact htcp

/-- An endpoint that was read is read from its own text, unless its address seems to have a
scheme. -/
theorem parse_display_iff (h : parse s = .ok e) :
    parse e.display = .ok e ↔ ¬ e.Bears unixScheme ∧ ¬ e.Bears tcpScheme := by
  have h := parse_eq_ok_iff.mp h
  rw [parse_eq_ok_iff]
  cases e with
  | unix path =>
    refine iff_of_true ⟨?_, h.2⟩ ⟨id, id⟩
    rw [display, String.toList_append]
    rfl
  | tcp address =>
    have hlonger : address.toList ≠ tcpScheme ++ address.toList := fun heq ↦
      absurd (List.self_eq_append_left.mp heq) (List.cons_ne_nil _ _)
    exact ⟨fun hread ↦ (hread.2.resolve_left hlonger).2, fun hbears ↦ ⟨h.1, .inr ⟨rfl, hbears⟩⟩⟩

/-- Endpoints of one text are the same, or a path and an address that seems to have its scheme. -/
theorem eq_iff_of_display_eq (hdisplay : e.display = e'.display) :
    e = e' ↔ (e.Bears unixScheme ↔ e'.Bears unixScheme) := by
  have hmixed {path address : String} (h : "unix:" ++ path = address) :
      unixScheme <+: address.toList := by
    rw [← h, String.toList_append]
    exact List.prefix_append _ _
  cases e with
  | tcp address =>
    cases e' with
    | tcp address' =>
      obtain rfl : address = address' := hdisplay
      exact iff_of_true rfl Iff.rfl
    | unix path => exact iff_of_false nofun fun h ↦ h.mp (hmixed hdisplay.symm)
  | unix path =>
    cases e' with
    | tcp address => exact iff_of_false nofun fun h ↦ h.mpr (hmixed hdisplay)
    | unix path' =>
      have hpath : path = path' := by
        have hlist := congrArg String.toList hdisplay
        rw [display, display, String.toList_append, String.toList_append] at hlist
        exact String.toList_inj.mp (List.append_cancel_left hlist)
      exact iff_of_true (congrArg Endpoint.unix hpath) Iff.rfl

/-- **The text of an endpoint says the same endpoint** if and only if the text that it was read from
has no second scheme behind `tcp://`. Two endpoints that have the same text are the same if and only
if both were written with `unix:` behind `tcp://`, or neither was. -/
theorem parse_display (h : parse s = .ok e) :
    (parse e.display = .ok e ↔ ¬ Behind unixScheme s ∧ ¬ Behind tcpScheme s) ∧
      ∀ s' e', parse s' = .ok e' → e.display = e'.display →
        (e = e' ↔ (Behind unixScheme s ↔ Behind unixScheme s')) := by
  refine ⟨?_, fun s' e' h' hdisplay ↦ ?_⟩
  · rw [parse_display_iff h, behind_iff_bears h (.inl rfl), behind_iff_bears h (.inr rfl)]
  · rw [behind_iff_bears h (.inl rfl), behind_iff_bears h' (.inl rfl),
      eq_iff_of_display_eq hdisplay]

/-- A host with colons of its own, behind a scheme. -/
theorem parse_display_bracketed :
    parse "tcp://[::1]:80" = .ok (.tcp "[::1]:80") ∧
      parse (Endpoint.tcp "[::1]:80").display = .ok (.tcp "[::1]:80") := by
  have hread : parse "tcp://[::1]:80" = .ok (.tcp "[::1]:80") := by decide +kernel
  have hbehind : ¬ Behind unixScheme "tcp://[::1]:80" ∧ ¬ Behind tcpScheme "tcp://[::1]:80" := by
    unfold Behind
    decide +kernel
  exact ⟨hread, (parse_display hread).1.mpr hbehind⟩

/-- The endpoint of `tcp://tcp://h:1` is another one when its text is read, and that of
`tcp://unix:/x:1` has the text of a path. -/
theorem display_loses_scheme :
    parse "tcp://tcp://h:1" = .ok (.tcp "tcp://h:1") ∧
      parse (Endpoint.tcp "tcp://h:1").display = .ok (.tcp "h:1") ∧
      parse "tcp://unix:/x:1" = .ok (.tcp "unix:/x:1") ∧
      parse "unix:/x:1" = .ok (.unix "/x:1") ∧
      (Endpoint.tcp "unix:/x:1").display = (Endpoint.unix "/x:1").display := by
  decide +kernel

end RpcTransport.Endpoint
