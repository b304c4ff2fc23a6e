import HttpChain.Proofs.Run.Turn
import HttpChain.Proofs.Variable.Capture

/-!
# HttpChain.Proofs.Run.DataFlow

How variables move through a run.  A step binds what it captures of its
response, and nothing else does: the context in which a step begins is the
first one, overlaid by what the steps before it captured (`gains`), and its
request is resolved in that context with its own variables on top.  The
responses are those to the requests that were sent, each in the place of its
own (`Flow.answers`).
-/

namespace HttpChain

namespace Runner

/-- What the steps of turns capture of their responses, in order; a step
without a response captures nothing. -/
def gains (ts : List Turn) (shown : List (StepResult × Response)) : List (String × Json) :=
  (ts.zip shown).flatMap fun x => Capture.hits x.1.position.step.action.extract x.2.2.body

@[simp] theorem gains_nil (ts : List Turn) : gains ts [] = [] := by
  rw [gains, List.zip_nil_right, List.flatMap_nil]

@[simp] theorem nil_gains (shown : List (StepResult × Response)) : gains [] shown = [] := rfl

theorem gains_cons (t : Turn) (ts : List Turn) (o : StepResult × Response)
    (shown : List (StepResult × Response)) :
    gains (t :: ts) (o :: shown) =
      Capture.hits t.position.step.action.extract o.2.body ++ gains ts shown := by
  rw [gains, List.zip_cons_cons, List.flatMap_cons, gains]

/-- Every name that is bound in one context is bound in another. -/
def Keeps (earlier later : Context) : Prop :=
  ∀ name, (earlier.get? name).isSome = true → (later.get? name).isSome = true

theorem Keeps.trans {a b c : Context} (hab : Keeps a b) (hbc : Keeps b c) : Keeps a c :=
  fun name h => hbc name (hab name h)

theorem keeps_insertAll (ctx : Context) (entries : List (String × Json)) :
    Keeps ctx (ctx.insertAll entries) :=
  fun _ h => Dict.isSome_get?_insertAll h entries

/-- The contexts in a run, in order: before it, when each step begins, and
after it. -/
def contexts (s : RunState) (ts : List Turn) (u : RunState) : List Context :=
  s.context :: ts.map (fun t => t.state.context) ++ [u.context]

/-- A run can begin earlier, in a context that the first one keeps. -/
theorem pairwise_contexts_of_keeps {s t u : RunState} {ts : List Turn}
    (h : Keeps s.context t.context) (rest : (contexts t ts u).Pairwise Keeps) :
    (contexts s ts u).Pairwise Keeps := by
  simp only [contexts, List.cons_append, List.pairwise_cons] at rest ⊢
  exact ⟨fun ctx hctx => h.trans (rest.1 ctx hctx), rest.2⟩

/-- The first step begins in the context before the run. -/
theorem pairwise_contexts_cons {s u : RunState} {ts : List Turn} (p : Position)
    (h : (contexts s ts u).Pairwise Keeps) : (contexts s (⟨p, s⟩ :: ts) u).Pairwise Keeps := by
  have hrest := h
  rw [contexts, List.cons_append, List.pairwise_cons] at hrest
  refine List.pairwise_cons.2 ⟨List.forall_mem_cons.2 ⟨?_, hrest.1⟩, h⟩
  exact fun _ hname => hname

/-- The variables in a run: what it has sent and shown, and what became of the
context.  A step has its response on show exactly if there was one. -/
structure Flow (r : Runner) (s : RunState) (ts : List Turn) (u : RunState)
    (sends : List Request) (shown : List (StepResult × Response)) : Prop where
  sent : u.sent = s.sent ++ sends
  observed : u.observed = s.observed ++ shown
  shows : ∀ (k : Nat) (o : StepResult × Response), shown[k]? = some o → ∃ t : Turn,
    ts[k]? = some t ∧ (r.takeTurn t.position t.state).2.observed = t.state.observed ++ [o]
  long : ts.length ≤ shown.length + 1
  context : u.context = s.context.insertAll (gains ts shown)
  states : ∀ (k : Nat) (t : Turn), ts[k]? = some t →
    t.state.context = s.context.insertAll (gains (ts.take k) shown)
  kept : (contexts s ts u).Pairwise Keeps
  requests : ∀ (k : Nat) (q : Request), sends[k]? = some q ↔
    ∃ t : Turn, ts[k]? = some t ∧ ∃ draws, Sends r t.position t.state q draws
  answers : ∀ (k : Nat) (response : Response), (∃ result, shown[k]? = some (result, response)) ↔
    ∃ q, sends[k]? = some q ∧ (r.exchange (s.sent.length + k) q).outcome = some (.ok response)

namespace Flow

variable {r : Runner} {p : Position} {s t u : RunState} {ts : List Turn} {sends : List Request}
  {shown : List (StepResult × Response)}

/-- Nothing moves where no step begins. -/
theorem refl (r : Runner) (s : RunState) : Flow r s [] s [] [] where
  sent := (List.append_nil _).symm
  observed := (List.append_nil _).symm
  shows _ _ h := by simp at h
  long := Nat.zero_le _
  context := rfl
  states _ _ h := by simp at h
  kept := by simp [contexts, Keeps]
  requests _ _ := by simp
  answers _ _ := by simp

/-- A step without a response binds nothing. -/
theorem silent (hsent : t.sent = s.sent ++ sends) (hobserved : t.observed = s.observed)
    (hcontext : t.context = s.context)
    (hrequests : ∀ (k : Nat) (q : Request),
      sends[k]? = some q ↔ k = 0 ∧ ∃ draws, Sends r p s q draws)
    (hanswers : ∀ q ∈ sends, ∀ response, (r.delivery s q).outcome ≠ some (.ok response)) :
    Flow r s [⟨p, s⟩] t sends [] where
  sent := hsent
  observed := by rw [hobserved, List.append_nil]
  shows _ _ h := by simp at h
  long := Nat.le_refl _
  context := by rw [hcontext, gains_nil, Dict.insertAll_nil]
  states k v h := by
    rw [gains_nil, Dict.insertAll_nil]
    cases k with
    | zero => cases h; rfl
    | succ k => simp at h
  kept := by simp [contexts, hcontext, Keeps]
  requests k q := by
    rw [hrequests]
    cases k <;> simp
  answers k response := by
    constructor
    · rintro ⟨result, h⟩
      cases h
    · rintro ⟨q, hq, hanswered⟩
      obtain ⟨rfl, -⟩ := (hrequests k q).1 hq
      exact (hanswers q (List.mem_of_getElem? hq) response hanswered).elim

/-- A step that sends nothing. -/
theorem unsent (hsent : t.sent = s.sent) (hobserved : t.observed = s.observed)
    (hcontext : t.context = s.context) (hnone : ∀ q draws, ¬ Sends r p s q draws) :
    Flow r s [⟨p, s⟩] t [] [] :=
  silent (by rw [hsent, List.append_nil]) hobserved hcontext (by simp [hnone]) (by simp)

/-- A step whose request has no response: the run was cancelled before it, or it failed. -/
theorem unanswered {q : Request} {draws : Draws} (hq : Sends r p s q draws)
    (ho : ∀ response, (r.delivery s q).outcome ≠ some (.ok response))
    (hsent : t.sent = s.sent ++ [q]) (hobserved : t.observed = s.observed)
    (hcontext : t.context = s.context) : Flow r s [⟨p, s⟩] t [q] [] := by
  refine silent hsent hobserved hcontext (fun k q' => ?_) (by simpa using ho)
  rw [List.getElem?_singleton]
  constructor
  · intro h
    obtain ⟨rfl, h⟩ := Option.ite_none_right_eq_some.1 h
    cases h
    exact ⟨rfl, draws, hq⟩
  · rintro ⟨rfl, draws', hq'⟩
    rw [if_pos rfl, hq.unique hq']

/-- A step with a response binds what it captures of it, ahead of all that
follows. -/
theorem answered {q : Request} {draws : Draws} {result : StepResult} {response : Response}
    (hq : Sends r p s q draws) (ho : (r.delivery s q).outcome = some (.ok response))
    (hturn : (r.takeTurn p s).2 = t) (hsent : t.sent = s.sent ++ [q])
    (hobserved : t.observed = s.observed ++ [(result, response)])
    (hcontext : t.context = (captured p response s).context)
    (rest : Flow r t ts u sends shown) :
    Flow r s (⟨p, s⟩ :: ts) u (q :: sends) ((result, response) :: shown) := by
  have hcontext : t.context =
      s.context.insertAll (Capture.hits p.step.action.extract response.body) := by
    rw [hcontext, captured, context_capture]
  -- each list begins with what is of this step, and goes on with that of the rest
  refine ⟨?sent, ?observed, ?shows, ?long, ?context, ?states, ?kept, ?requests, ?answers⟩
  case sent => rw [rest.sent, hsent, List.append_assoc, List.singleton_append]
  case observed => rw [rest.observed, hobserved, List.append_assoc, List.singleton_append]
  case shows =>
    intro k o h
    cases k with
    | zero =>
      cases h
      exact ⟨⟨p, s⟩, rfl, by rw [hturn, hobserved]⟩
    | succ k =>
      rw [List.getElem?_cons_succ] at h
      exact rest.shows k o h
  case long => simpa using rest.long
  case context => rw [rest.context, hcontext, gains_cons, Dict.insertAll_append]
  case states =>
    intro k v h
    cases k with
    | zero =>
      cases h
      rw [List.take_zero, nil_gains, Dict.insertAll_nil]
    | succ k =>
      rw [List.getElem?_cons_succ] at h
      rw [rest.states k v h, hcontext, List.take_succ_cons, gains_cons, Dict.insertAll_append]
  case kept =>
    refine pairwise_contexts_cons p (pairwise_contexts_of_keeps ?_ rest.kept)
    rw [hcontext]
    exact keeps_insertAll _ _
  case requests =>
    intro k q'
    cases k with
    | zero =>
      simp only [List.getElem?_cons_zero, Option.some.injEq, exists_eq_left']
      constructor
      · rintro rfl
        exact ⟨draws, hq⟩
      · rintro ⟨draws', hq'⟩
        exact (hq.unique hq').symm
    | succ k =>
      rw [List.getElem?_cons_succ, List.getElem?_cons_succ]
      exact rest.requests k q'
  case answers =>
    intro k response'
    cases k with
    | zero =>
      simp only [List.getElem?_cons_zero, Option.some.injEq, exists_eq_left']
      constructor
      · rintro ⟨_, h⟩
        cases h
        exact ho
      · intro h
        cases ho.symm.trans h
        exact ⟨result, rfl⟩
    | succ k =>
      have hplace : s.sent.length + (k + 1) = t.sent.length + k := by
        rw [hsent, List.length_append, List.length_singleton]
        omega
      rw [List.getElem?_cons_succ, List.getElem?_cons_succ, hplace]
      exact rest.answers k response'

/-- The turn of a step, however it ends. -/
theorem ofTurn {x : Except Error StepResult} (h : r.takeTurn p s = (x, t)) :
    ∃ sends shown, Flow r s [⟨p, s⟩] t sends shown := by
  have hturn : (r.takeTurn p s).2 = t := by rw [h]
  cases taken_of_takeTurn h with
  | unnamed hn => exact ⟨[], [], unsent rfl rfl rfl fun q draws hq => hq.named hn⟩
  | unresolved hn hq =>
    refine ⟨[], [], unsent rfl rfl rfl fun q draws hs => ?_⟩
    obtain ⟨events, he⟩ := hs.resolved
    rw [hq] at he
    cases he
  | withheld hn hq hc =>
    refine ⟨[], [], unsent rfl rfl rfl fun q draws hs => ?_⟩
    rw [hs.live] at hc
    cases hc
  | abandoned hq ho => exact ⟨_, [], unanswered hq (by simp [ho]) rfl rfl rfl⟩
  | refused hq ho => exact ⟨_, [], unanswered hq (by simp [ho]) rfl rfl rfl⟩
  | failed hq ho hv => exact ⟨_, _, answered hq ho hturn rfl rfl rfl (refl r _)⟩
  | passed hq ho hv => exact ⟨_, _, answered hq ho hturn rfl rfl rfl (refl r _)⟩

end Flow

/-- Variables move in the same way through a whole run. -/
theorem Course.flow {r : Runner} {ps : List Position} {s u : RunState} {ts : List Turn}
    {x : Except Error (List StepResult)} (h : Course r ps s ts x u) :
    ∃ sends shown, Flow r s ts u sends shown := by
  induction h with
  | done => exact ⟨[], [], .refl r _⟩
  | stop h => exact Flow.ofTurn h
  | step h rest ih =>
    obtain ⟨sends, shown, ih⟩ := ih
    have hturn := congrArg Prod.snd h
    cases taken_of_takeTurn h with
    | passed hq ho hv => exact ⟨_, _, .answered hq ho hturn rfl rfl rfl ih⟩

/-- The variables in a run of a chain.  A step sends its request exactly if it has a name,
the run has not been cancelled and the request, resolved in the context in which the step
begins and its own variables alone, comes to something.  The response to it, if there is
one, is shown in the turn of the same place, and nothing else is: at most the last turn
shows none.  The final context is the first one, overlaid by what each step captured of its
response; each step begins in the first context overlaid by what the steps before it
captured; and a name that is bound stays bound. -/
theorem runChain_flow (r : Runner) (c : Chain) (ctx : Context) (draws : Draws)
    (cancelled : Bool) :
    let s := RunState.start ctx draws cancelled
    let ts := r.turnsOf c s
    let final := (r.runChain c s).2
    (∀ (k : Nat) (o : StepResult × Response), final.observed[k]? = some o → ∃ t : Turn,
        ts[k]? = some t ∧
          (r.takeTurn t.position t.state).2.observed = t.state.observed ++ [o]) ∧
    ts.length ≤ final.observed.length + 1 ∧
    (∀ (k : Nat) (response : Response),
      (∃ result, final.observed[k]? = some (result, response)) ↔
        ∃ q, final.sent[k]? = some q ∧ (r.exchange k q).outcome = some (.ok response)) ∧
    final.context = ctx.insertAll (gains ts final.observed) ∧
    (∀ (k : Nat) (t : Turn), ts[k]? = some t →
      t.state.context = ctx.insertAll (gains (ts.take k) final.observed)) ∧
    (contexts s ts final).Pairwise Keeps ∧
    ∀ (k : Nat) (q : Request), final.sent[k]? = some q ↔
      ∃ t : Turn, ts[k]? = some t ∧ t.position.name ≠ "" ∧ t.state.cancelled = false ∧ ∃ events,
        (r.resolution t.position.step.action t.state.context t.state.draws).1 = .ok (q, events) := by
  intro s ts final
  obtain ⟨x, u, hcourse, -, hcontext, hsent, hobserved⟩ := r.records_runChain c s
  obtain ⟨sends, shown, hflow⟩ := hcourse.flow
  have hcontext : final.context = u.context := hcontext
  have hobserved : final.observed = shown := hobserved.trans hflow.observed
  have hsent : final.sent = sends := hsent.trans hflow.sent
  have hcontexts : contexts s ts final = contexts (opened c s) ts u := by
    rw [contexts, contexts, hcontext]
    rfl
  have hanswers : ∀ (k : Nat) (response : Response),
      (∃ result, shown[k]? = some (result, response)) ↔
        ∃ q, sends[k]? = some q ∧ (r.exchange k q).outcome = some (.ok response) := by
    intro k response
    -- nothing has been sent when the run begins
    have hplace : (opened c s).sent.length + k = k := Nat.zero_add k
    rw [hflow.answers, hplace]
  rw [hcontexts, hcontext, hobserved, hsent]
  refine ⟨hflow.shows, hflow.long, hanswers, hflow.context, hflow.states, hflow.kept,
    fun k q => ?_⟩
  simp only [hflow.requests, exists_sends_iff]
  rfl

end Runner

end HttpChain
