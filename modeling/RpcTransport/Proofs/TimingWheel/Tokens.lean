import RpcTransport.Proofs.TimingWheel.Settling

/-!
# Tokens in use

A token is in use while its deadline is armed or asked for. That it is in use does not say that its
deadline will be armed when the commands that wait are taken: there may be one among them that
cancels it. A token is *live* if there is none.

Whatever the wheel does by itself, no token comes into use, and none comes to life; and a deadline
that fires was in use, and its token is not any more (`Turns.spec`).
-/

namespace RpcTransport.TimingWheel

variable {τ : Type} {w w' : TimingWheel τ} {token : Nat}

/-! ## Requests for deadlines -/

def Armed.request (e : Armed τ) : Nat × τ × UInt64 := (e.token, e.target, e.id)

def Command.request? : Command τ → Option (Nat × τ × UInt64)
  | .schedule token target id _ => some (token, target, id)
  | .cancel _ => none

/-- The deadlines that are armed or asked for. -/
def requests (w : TimingWheel τ) : List (Nat × τ × UInt64) :=
  w.armed.map Armed.request ++ w.commands.filterMap Command.request?

/-- What is left of a token that is live or not, when a command is taken. -/
def Command.leaves (token : Nat) (live : Prop) : Command τ → Prop
  | .schedule token' _ _ _ => live ∨ token' = token
  | .cancel token' => live ∧ token' ≠ token

/-- The deadline is armed, or will be when the commands that wait are taken. -/
def Live (w : TimingWheel τ) (token : Nat) : Prop :=
  w.commands.foldl (Command.leaves token) (∃ e ∈ w.armed, e.token = token)

private theorem foldl_leaves_mono {p q : Prop} (h : p → q) (cs : List (Command τ))
    (hp : cs.foldl (Command.leaves token) p) : cs.foldl (Command.leaves token) q := by
  induction cs generalizing p q with
  | nil => exact h hp
  | cons c cs ih =>
    refine ih (fun hleft ↦ ?_) hp
    cases c with
    | schedule => exact hleft.imp_left h
    | cancel => exact ⟨h hleft.1, hleft.2⟩

private theorem mem_of_foldl_leaves {p : Prop} {cs : List (Command τ)}
    (h : cs.foldl (Command.leaves token) p) :
    p ∨ ∃ x ∈ cs.filterMap Command.request?, x.1 = token := by
  induction cs generalizing p with
  | nil => exact .inl h
  | cons c cs ih =>
    rcases ih h with hleft | ⟨x, hx, htoken⟩
    · match c, hleft with
      | .schedule token' target id _, .inr htoken =>
        exact .inr ⟨(token', target, id), List.mem_cons_self, htoken⟩
      | .schedule .., .inl hp => exact .inl hp
      | .cancel _, hp => exact .inl hp.1
    · refine .inr ⟨x, ?_, htoken⟩
      rw [List.filterMap_cons]
      split
      · exact hx
      · exact List.mem_cons_of_mem _ hx

/-- A token that is live is in use. -/
theorem Live.exists_request (h : w.Live token) : ∃ x ∈ w.requests, x.1 = token := by
  rcases mem_of_foldl_leaves h with ⟨e, he, htoken⟩ | ⟨x, hx, htoken⟩
  · exact ⟨e.request, List.mem_append_left _ (List.mem_map_of_mem he), htoken⟩
  · exact ⟨x, List.mem_append_right _ hx, htoken⟩

theorem Live.of_armed (h : w'.Live token) (hcommands : w'.commands = w.commands)
    (harmed : ∀ e ∈ w'.armed, e ∈ w.armed) : w.Live token := by
  rw [Live, hcommands] at h
  exact foldl_leaves_mono (fun ⟨e, he, htoken⟩ ↦ ⟨e, harmed e he, htoken⟩) _ h

/-- Where no command waits, the live tokens are those that are armed. -/
theorem live_of_mem_armed (h : w.commands = []) {e : Armed τ} (he : e ∈ w.armed) :
    w.Live e.token := by
  rw [Live, h]
  exact ⟨e, he, rfl⟩

/-! ## Callers -/

@[simp]
theorem requests_schedule (w : TimingWheel τ) (target : τ) (id : UInt64) (delay : Nat) :
    (w.schedule target id delay).2.requests = w.requests ++ [(w.nextToken, target, id)] := by
  rw [requests, requests, List.append_assoc]
  exact congrArg _ List.filterMap_append

@[simp]
theorem requests_cancel (w : TimingWheel τ) (token : Nat) :
    (w.cancel token).requests = w.requests := by
  rw [requests, requests]
  exact congrArg _ (List.filterMap_append.trans (List.append_nil _))

theorem live_schedule_iff {target : τ} {id : UInt64} {delay : Nat} :
    (w.schedule target id delay).2.Live token ↔ w.Live token ∨ w.nextToken = token := by
  rw [Live, schedule, List.foldl_append]
  exact Iff.rfl

theorem live_cancel_iff {token' : Nat} :
    (w.cancel token').Live token ↔ w.Live token ∧ token' ≠ token := by
  rw [Live, cancel, List.foldl_append]
  exact Iff.rfl

/-! ## The wheel itself -/

/-- A step of the wheel, and the deadlines that fire in it: one at the most. -/
inductive Turns : TimingWheel τ → TimingWheel τ → List (Nat × τ × UInt64) → Prop where
  | take {w : TimingWheel τ} {c : Command τ} {rest : List (Command τ)} (hrun : w.stopped = false)
      (h : w.commands = c :: rest) : Turns w ({ w with commands := rest }.execute c) []
  /-- The slots are turned. -/
  | catchUp (w : TimingWheel τ) : Turns w w.catchUp []
  | advance (instant : Nat) (w : TimingWheel τ) : Turns w (w.advanceTo instant) []
  | shutdown (w : TimingWheel τ) : Turns w w.shutdown []
  | expire (alive : τ → Bool) {w w' : TimingWheel τ} {q : Queued} {agenda : Agenda}
      {fired : Option (τ × UInt64)} (hdue : w.agenda.takeDue w.now = some (q, agenda))
      (h : w.expireNext alive = some (fired, w')) :
      Turns w w' (fired.toList.map fun x ↦ (q.token, x))

/-- Deadlines are armed for what was asked, or lost, or cancelled. -/
theorem requests_execute {c : Command τ} {rest : List (Command τ)} (h : w.commands = c :: rest) :
    ({ w with commands := rest }.execute c).requests.Sublist w.requests := by
  have hrest : (rest.filterMap Command.request?).Sublist (w.commands.filterMap Command.request?) :=
    h ▸ (List.sublist_cons_self c rest).filterMap _
  cases c with
  | schedule t target id delay =>
    have hfirst : w.commands.filterMap Command.request? =
        (t, target, id) :: rest.filterMap Command.request? := by rw [h]; rfl
    rw [execute]
    split
    · exact hrest.append_left _
    · split
      · exact hrest.trans (List.sublist_append_right _ _)
      · rw [requests, requests, hfirst, List.map_append, List.append_assoc]
        exact List.Sublist.refl _
  | cancel t =>
    rw [execute]
    split
    · exact hrest.append_left _
    · exact (List.filter_sublist.map _).append hrest

theorem live_execute {c : Command τ} {rest : List (Command τ)} (h : w.commands = c :: rest)
    (hlive : ({ w with commands := rest }.execute c).Live token) : w.Live token := by
  rw [Live, h, List.foldl_cons]
  rw [Live, commands_execute] at hlive
  refine foldl_leaves_mono ?_ _ hlive
  rintro ⟨e, he, htoken⟩
  cases c with
  | schedule t target id delay =>
    rw [execute] at he
    split at he
    · exact .inl ⟨e, he, htoken⟩
    · split at he
      · exact absurd he List.not_mem_nil
      · rcases List.mem_append.mp he with he | he
        · exact .inl ⟨e, he, htoken⟩
        · rw [List.mem_singleton.mp he] at htoken
          exact .inr htoken
  | cancel t =>
    rw [execute] at he
    split at he
    · next hnone =>
      refine ⟨⟨e, he, htoken⟩, ?_⟩
      rintro rfl
      exact List.find?_eq_none.mp hnone e he (decide_eq_true htoken)
    · obtain ⟨he, hne⟩ := List.mem_filter.mp he
      refine ⟨⟨e, he, htoken⟩, ?_⟩
      rintro rfl
      exact of_decide_eq_true hne htoken

/-- **What a step of the wheel does to tokens.** None comes into use or to life, and one whose
deadline fires was in use, and is so no more. -/
structure Spends (w w' : TimingWheel τ) (fired : List (Nat × τ × UInt64)) : Prop where
  requests : w'.requests.Sublist w.requests
  nextToken_eq : w'.nextToken = w.nextToken
  live : ∀ token, w'.Live token → w.Live token
  fired : (w.requests.map (·.1)).Nodup → ∀ x ∈ fired,
    x ∈ w.requests ∧ x.1 ∉ w'.requests.map (·.1)

theorem spends_of_eq (harmed : w'.armed = w.armed) (hcommands : w'.commands = w.commands)
    (hnext : w'.nextToken = w.nextToken) : Spends w w' [] where
  requests := by
    rw [TimingWheel.requests, harmed, hcommands]
    exact List.Sublist.refl _
  nextToken_eq := hnext
  live _ hlive := hlive.of_armed hcommands fun _ he ↦ harmed ▸ he
  fired _ := List.forall_mem_nil _

theorem nextToken_execute (w : TimingWheel τ) (c : Command τ) :
    (w.execute c).nextToken = w.nextToken := by
  cases c with
  | schedule =>
    rw [execute]
    split
    · rfl
    · split
      · rfl
      · rfl
  | cancel =>
    rw [execute]
    split
    · rfl
    · rfl

theorem spends_catchUp (w : TimingWheel τ) : Spends w w.catchUp [] := by
  obtain ⟨agenda, -, hcatchUp⟩ := System.catchUp_eq w
  rw [hcatchUp]
  exact spends_of_eq rfl rfl rfl

/-- **A deadline that fires is no longer armed.** -/
theorem spends_expire {alive : τ → Bool} {q : Queued} {agenda : Agenda}
    {fired : Option (τ × UInt64)} (hdue : w.agenda.takeDue w.now = some (q, agenda))
    (h : w.expireNext alive = some (fired, w')) :
    Spends w w' (fired.toList.map fun x ↦ (q.token, x)) := by
  have hagenda : Spends w { w with agenda := agenda }.catchUp [] := by
    obtain ⟨agenda', -, hcatchUp⟩ := System.catchUp_eq { w with agenda := agenda }
    rw [hcatchUp]
    exact spends_of_eq rfl rfl rfl
  rw [expireNext] at h
  split at h
  · cases h
  · rw [hdue] at h
    dsimp only at h
    split at h
    · obtain ⟨rfl, rfl⟩ := Prod.mk.inj (Option.some.inj h)
      exact hagenda
    · next e hfind =>
      obtain ⟨rfl, rfl⟩ := Prod.mk.inj (Option.some.inj h)
      have htoken : e.token = q.token := by simpa using List.find?_some hfind
      have he : e ∈ w.armed := by
        have hmem := List.mem_of_find?_eq_some hfind
        rwa [armed_catchUp] at hmem
      have hcommands : { w with agenda := agenda }.catchUp.commands = w.commands := by
        obtain ⟨agenda', -, hcatchUp⟩ := System.catchUp_eq { w with agenda := agenda }
        rw [hcatchUp]
      have hsub : ({ { w with agenda := agenda }.catchUp with
          armed := { w with agenda := agenda }.catchUp.armed.filter
            (·.token ≠ q.token) } : TimingWheel τ).requests.Sublist w.requests := by
        rw [requests, requests, armed_catchUp, hcommands]
        exact (List.filter_sublist.map _).append_right _
      refine ⟨hsub, hagenda.nextToken_eq, ?_, ?_⟩
      · intro token hlive
        refine hlive.of_armed hcommands fun e he ↦ ?_
        rw [← armed_catchUp { w with agenda := agenda }]
        exact (List.mem_filter.mp he).1
      · intro hnodup x hx
        obtain ⟨y, hy, rfl⟩ := List.mem_map.mp hx
        have hy : y = (e.target, e.id) := by
          split at hy
          · exact List.mem_singleton.mp hy
          · exact absurd hy List.not_mem_nil
        subst hy
        have hrequest : e.request ∈ w.armed.map Armed.request := List.mem_map_of_mem he
        refine ⟨?_, ?_⟩
        · rw [← htoken]
          exact List.mem_append_left _ hrequest
        · -- The token was armed, so it is not asked for, and now it is not armed either.
          rw [requests, List.map_append, List.nodup_append] at hnodup
          rw [requests, armed_catchUp, hcommands, List.map_append, List.mem_append]
          rintro (hmem | hmem)
          · obtain ⟨_, hmem, heq⟩ := List.mem_map.mp hmem
            obtain ⟨e', he', rfl⟩ := List.mem_map.mp hmem
            exact of_decide_eq_true (List.mem_filter.mp he').2 heq
          · exact hnodup.2.2 _ (List.mem_map_of_mem hrequest) _ hmem htoken

theorem Turns.spec {fired : List (Nat × τ × UInt64)} (h : Turns w w' fired) :
    Spends w w' fired := by
  cases h with
  | take hrun h =>
    refine ⟨requests_execute h, nextToken_execute _ _, fun _ ↦ live_execute h, ?_⟩
    exact fun _ ↦ List.forall_mem_nil _
  | catchUp => exact spends_catchUp w
  | advance instant =>
    obtain ⟨agenda, -, hcatchUp⟩ := System.catchUp_eq { w with now := max w.now instant }
    rw [advanceTo, hcatchUp]
    exact spends_of_eq rfl rfl rfl
  | shutdown => exact spends_of_eq rfl rfl rfl
  | expire alive hdue h => exact spends_expire hdue h

end RpcTransport.TimingWheel
