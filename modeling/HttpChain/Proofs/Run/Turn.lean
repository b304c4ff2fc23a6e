import HttpChain.Proofs.Run.Agenda

/-!
# HttpChain.Proofs.Run.Turn

What the turn of a step can come to.  `Taken` lists every way in which it ends,
each with what it depends on and the state that it leaves; `takeTurn_taken`
says that there is no other.  Proofs about runs go by the cases of `Taken` and
do not look into the turn again.
-/

namespace HttpChain

namespace Runner

/-! ## the request of a step -/

/-- The request of a step in a context, overlaid by the step's own variables. -/
def resolution (r : Runner) (a : Action) (ctx : Context) :
    Drawing (Except Error (Request × List Log.Event)) := do
  let overlaid ← ctx.withLocals a.locals
  r.config.resolveNamed r.environment (Text.strip a.request) overlaid

theorem requestOf_error {r : Runner} {a : Action} {s : RunState} {e : Error} {draws : Draws}
    (h : r.resolution a s.context s.draws = (.error e, draws)) :
    r.requestOf (Text.strip a.request) a s = (.error e, { s with draws }) := by
  simp only [resolution, bind, StateT.bind] at h
  rcases hw : s.context.withLocals a.locals s.draws with ⟨ctx, d⟩
  rw [hw] at h
  simp only [requestOf, hw, h]

theorem requestOf_ok {r : Runner} {a : Action} {s : RunState} {q : Request}
    {events : List Log.Event} {draws : Draws}
    (h : r.resolution a s.context s.draws = (.ok (q, events), draws)) :
    r.requestOf (Text.strip a.request) a s =
      (.ok q, { s with draws, log := s.log ++ events }) := by
  simp only [resolution, bind, StateT.bind] at h
  rcases hw : s.context.withLocals a.locals s.draws with ⟨ctx, d⟩
  rw [hw] at h
  simp only [requestOf, hw, h, RunState.say]

/-- A URL that cannot be read is the fault of the config. -/
theorem error_of_resolveUrl {c : Config} {env : Environment} {ctx : Context} {text : String}
    {draws : Draws} {e : Error} (h : (c.resolveUrl env ctx text draws).1 = .error e) :
    ∃ f, e = .config f := by
  rw [Config.resolveUrl, Drawing.bind_apply] at h
  cases hu : Url.parse (c.absoluteUrl env (substitute .query ctx text draws).1) with
  | ok url =>
    simp only [hu] at h
    cases h
  | error f =>
    simp only [hu] at h
    cases h
    exact ⟨_, rfl⟩

/-- A template without a method or a URL is the fault of the config. -/
theorem error_of_resolve {c : Config} {env : Environment} {t : RequestTemplate} {ctx : Context}
    {draws : Draws} {e : Error} (h : (c.resolve env t ctx draws).1 = .error e) :
    ∃ f, e = .config f := by
  rw [Config.resolve] at h
  cases hm : Method.ofText? t.method with
  | none =>
    rw [hm] at h
    cases h
    exact ⟨_, rfl⟩
  | some method =>
    simp only [hm] at h
    rw [Drawing.bind_apply] at h
    cases hu : (c.resolveUrl env ctx t.url draws).1 with
    | error e' =>
      rw [hu] at h
      cases h
      exact error_of_resolveUrl hu
    | ok url =>
      rw [hu] at h
      cases h

/-- A step that comes to no request has an unknown name, or a method or a URL
that is none. -/
theorem error_of_resolution {r : Runner} {a : Action} {ctx : Context} {draws : Draws} {e : Error}
    (h : (r.resolution a ctx draws).1 = .error e) :
    (∃ f, e = .config f) ∨ ∃ name, e = .unknownRequest name := by
  rw [resolution, Drawing.bind_apply, Config.resolveNamed] at h
  cases hn : r.config.request (Text.strip a.request) with
  | error e' =>
    rw [hn] at h
    rw [Config.request] at hn
    split at hn
    · cases hn
    · cases h
      cases hn
      exact .inr ⟨_, rfl⟩
  | ok t =>
    rw [hn] at h
    exact .inl (error_of_resolve h)

/-! ## sending it -/

/-- What becomes of a request that is sent. -/
def delivery (r : Runner) (s : RunState) (q : Request) : Delivery := r.exchange s.sent.length q

/-- The state that sending a request leaves. -/
def sending (r : Runner) (name : String) (q : Request) (s : RunState) : RunState :=
  { s with
    sent := s.sent ++ [q]
    cancelled := (r.delivery s q).cancels
    log := s.log ++
      event .debug ("Executing '" ++ name ++ "': " ++ q.display) :: (r.delivery s q).log }

theorem send_of_cancelled {r : Runner} {name : String} {q : Request} {s : RunState}
    (hc : s.cancelled = true) : r.send name q s = (.error .cancelled, s) := by
  rw [send, if_pos hc]

theorem send_of_live {r : Runner} {name : String} {q : Request} {s : RunState}
    (hc : s.cancelled = false) :
    r.send name q s =
      (match (r.delivery s q).outcome with
        | none => .error .cancelled
        | some (.error e) => .error (.transport name e)
        | some (.ok response) => .ok response, r.sending name q s) := by
  rw [send, hc]
  simp only [Bool.false_eq_true, if_false, RunState.say, sending, delivery]
  rcases (r.exchange s.sent.length q).outcome with _ | e | response <;> rfl

/-! ## the ways a turn can end -/

/-- A step that sends its request: it has a name, the request is known, and the
run has not been cancelled. -/
structure Sends (r : Runner) (p : Position) (s : RunState) (q : Request) (draws : Draws) : Prop where
  named : p.name ≠ ""
  resolved : ∃ events,
    r.resolution p.step.action s.context s.draws = (.ok (q, events), draws)
  live : s.cancelled = false

/-- What a step captures of its response. -/
def captured (p : Position) (response : Response) (s : RunState) : Captured :=
  capture p.name response.body p.step.action.extract s.context

end Runner

/-- The result of a step with a request and its response. -/
def Position.result (p : Position) (q : Request) (response : Response) (names : List String)
    (verdicts : List Assertion.Verdict) (failure : Option String) (branched : Bool) :
    StepResult :=
  { depth := p.depth, request := p.name, method := q.method, url := q.url
    status := response.status.code, duration := response.duration, extracted := names
    assertions := verdicts, failure, branched }

namespace Runner

/-- The ways in which the turn of a step can end. -/
inductive Taken (r : Runner) (p : Position) (s : RunState) : Except Error StepResult → RunState → Prop
  /-- The step has no name. -/
  | unnamed (hn : p.name = "") : Taken r p s (.error (.missingRequest (p.index + 1))) s
  /-- The name, the method or the URL leads to no request. -/
  | unresolved {e : Error} {draws : Draws} (hn : p.name ≠ "")
      (hq : r.resolution p.step.action s.context s.draws = (.error e, draws)) :
      Taken r p s (.error e) { s with draws }
  /-- The run had been cancelled before. -/
  | withheld {q : Request} {events : List Log.Event} {draws : Draws} {log : List Log.Event}
      (hn : p.name ≠ "")
      (hq : r.resolution p.step.action s.context s.draws = (.ok (q, events), draws))
      (hc : s.cancelled = true) : Taken r p s (.error .cancelled) { s with draws, log }
  /-- The request was sent and the run cancelled before it had a reply. -/
  | abandoned {q : Request} {draws : Draws} {log : List Log.Event} (hq : Sends r p s q draws)
      (ho : (r.delivery s q).outcome = none) :
      Taken r p s (.error .cancelled)
        { s with draws, log, sent := s.sent ++ [q], cancelled := (r.delivery s q).cancels }
  /-- The request was sent, and it failed. -/
  | refused {q : Request} {draws : Draws} {log : List Log.Event} {cause : Error}
      (hq : Sends r p s q draws) (ho : (r.delivery s q).outcome = some (.error cause)) :
      Taken r p s (.error (.transport p.name cause))
        { s with draws, log, sent := s.sent ++ [q], cancelled := (r.delivery s q).cancels }
  /-- There was a response, and an assertion failed. -/
  | failed {q : Request} {draws draws' : Draws} {log : List Log.Event} {response : Response}
      {v : Assertion.Verdict} (hq : Sends r p s q draws)
      (ho : (r.delivery s q).outcome = some (.ok response))
      (hv : Assertion.check p.step.action.assertions (captured p response s).context draws =
        (.error v, draws')) :
      Taken r p s (.error v.error)
        { s with
          context := (captured p response s).context
          draws := draws', log, sent := s.sent ++ [q], cancelled := (r.delivery s q).cancels
          observed := s.observed ++ [(p.result q response (captured p response s).names []
            (some v.error.message) false, response)] }
  /-- There was a response, and the step passed. -/
  | passed {q : Request} {draws draws' : Draws} {log : List Log.Event} {response : Response}
      {vs : List Assertion.Verdict} (hq : Sends r p s q draws)
      (ho : (r.delivery s q).outcome = some (.ok response))
      (hv : Assertion.check p.step.action.assertions (captured p response s).context draws =
        (.ok vs, draws')) :
      Taken r p s
        (.ok (p.result q response (captured p response s).names vs none
          (hasBranch p.step.branches response.status.code)))
        { s with
          context := (captured p response s).context
          draws := draws', log, sent := s.sent ++ [q], cancelled := (r.delivery s q).cancels
          observed := s.observed ++ [(p.result q response (captured p response s).names vs none
            (hasBranch p.step.branches response.status.code), response)] }

/-! ## there is no other way -/

/-- Taking in the response of a step that has sent its request. -/
theorem conclude_taken {r : Runner} {p : Position} {s : RunState} {q : Request} {draws : Draws}
    (log : List Log.Event) {response : Response} (hq : Sends r p s q draws)
    (ho : (r.delivery s q).outcome = some (.ok response)) :
    let x := proceed (conclude p.depth p.name p.step.action (hasBranch p.step.branches) q response
      { s with draws, log, sent := s.sent ++ [q], cancelled := (r.delivery s q).cancels })
      fun result s => (.ok result, s.say (branchEvents p result))
    Taken r p s x.1 x.2 := by
  rcases hv : Assertion.check p.step.action.assertions (captured p response s).context draws
    with ⟨v | vs, draws'⟩
  · have hv' := hv
    simp only [captured] at hv'
    simp only [conclude, hv']
    exact .failed hq ho hv
  · have hv' := hv
    simp only [captured] at hv'
    simp only [conclude, hv']
    exact .passed hq ho hv

/-- A turn ends in one of the ways there are. -/
theorem takeTurn_taken (r : Runner) (p : Position) (s : RunState) :
    Taken r p s (r.takeTurn p s).1 (r.takeTurn p s).2 := by
  rw [takeTurn, perform]
  by_cases hn : p.name = ""
  · have hn' : Text.strip p.step.action.request = "" := hn
    simp only [hn', if_true]
    exact .unnamed hn
  · have hn' : Text.strip p.step.action.request ≠ "" := hn
    simp only [hn', if_false]
    rcases hq : r.resolution p.step.action s.context s.draws with ⟨e | ⟨q, events⟩, draws⟩
    · simp only [requestOf_error hq]
      exact .unresolved hn hq
    · simp only [requestOf_ok hq]
      by_cases hc : s.cancelled = true
      · rw [send_of_cancelled (s := { s with draws, log := s.log ++ events }) hc]
        exact .withheld hn hq hc
      · have hc : s.cancelled = false := (Bool.not_eq_true _).mp hc
        have hs : Sends r p s q draws := ⟨hn, ⟨events, hq⟩, hc⟩
        have hd : r.delivery { s with draws, log := s.log ++ events } q = r.delivery s q := rfl
        rw [send_of_live (s := { s with draws, log := s.log ++ events }) hc, hd]
        rcases ho : (r.delivery s q).outcome with _ | cause | response
        · exact .abandoned hs ho
        · exact .refused hs ho
        · exact conclude_taken _ hs ho

theorem taken_of_takeTurn {r : Runner} {p : Position} {s t : RunState} {x : Except Error StepResult}
    (h : r.takeTurn p s = (x, t)) : Taken r p s x t := by
  have ht := r.takeTurn_taken p s
  rwa [h] at ht

/-! ## each way is taken -/

/-- A turn that sends its request goes on with what is delivered. -/
theorem takeTurn_of_sends {r : Runner} {p : Position} {s : RunState} {q : Request} {draws : Draws}
    (hq : Sends r p s q draws) :
    ∃ log, r.takeTurn p s =
      proceed
        (proceed
          (match (r.delivery s q).outcome with
            | none => .error .cancelled
            | some (.error e) => .error (.transport p.name e)
            | some (.ok response) => .ok response,
            { s with draws, log, sent := s.sent ++ [q], cancelled := (r.delivery s q).cancels })
          fun response s =>
            conclude p.depth p.name p.step.action (hasBranch p.step.branches) q response s)
        fun result s => (.ok result, s.say (branchEvents p result)) := by
  obtain ⟨hn, ⟨events, he⟩, hlive⟩ := hq
  have hn' : Text.strip p.step.action.request ≠ "" := hn
  have hd : r.delivery { s with draws, log := s.log ++ events } q = r.delivery s q := rfl
  refine ⟨s.log ++ events ++
    event .debug ("Executing '" ++ p.name ++ "': " ++ q.display) :: (r.delivery s q).log, ?_⟩
  rw [takeTurn, perform, if_neg hn', requestOf_ok he]
  simp only [send_of_live (s := { s with draws, log := s.log ++ events }) hlive, hd]
  rcases (r.delivery s q).outcome with _ | cause | response <;> rfl

/-- Whatever a turn can come to, it does come to, up to what it says. -/
theorem takeTurn_of_taken {r : Runner} {p : Position} {s t : RunState} {x : Except Error StepResult}
    (h : Taken r p s x t) : ∃ log, r.takeTurn p s = (x, { t with log }) := by
  cases h with
  | unnamed hn =>
    have hn' : Text.strip p.step.action.request = "" := hn
    exact ⟨s.log, by rw [takeTurn, perform, if_pos hn']; rfl⟩
  | @unresolved e draws hn hq =>
    have hn' : Text.strip p.step.action.request ≠ "" := hn
    exact ⟨s.log, by rw [takeTurn, perform, if_neg hn', requestOf_error hq]; rfl⟩
  | @withheld q events draws log hn hq hc =>
    have hn' : Text.strip p.step.action.request ≠ "" := hn
    refine ⟨s.log ++ events, ?_⟩
    rw [takeTurn, perform, if_neg hn', requestOf_ok hq]
    simp only [send_of_cancelled (s := { s with draws, log := s.log ++ events }) hc]
    rfl
  | abandoned hq ho | refused hq ho =>
    obtain ⟨log, hturn⟩ := takeTurn_of_sends hq
    exact ⟨log, by rw [hturn, ho]; rfl⟩
  | @failed q draws draws' _ response v hq ho hv =>
    obtain ⟨log, hturn⟩ := takeTurn_of_sends hq
    refine ⟨log ++ (captured p response s).log, ?_⟩
    rw [captured] at hv
    rw [hturn, ho]
    simp only [proceed_ok, conclude, hv]
    rfl
  | @passed q draws draws' _ response vs hq ho hv =>
    obtain ⟨log, hturn⟩ := takeTurn_of_sends hq
    refine ⟨log ++ (captured p response s).log ++ branchEvents p (p.result q response
      (captured p response s).names vs none (hasBranch p.step.branches response.status.code)), ?_⟩
    rw [captured] at hv
    rw [hturn, ho]
    simp only [proceed_ok, conclude, hv]
    rfl

/-- The request that a step is about to send, or why there is none: it has no
name, or its name, its method or its URL leads to no request. -/
def ready (r : Runner) (t : Turn) : Except Error Request :=
  if t.position.name = "" then .error (.missingRequest (t.position.index + 1))
  else (r.resolution t.position.step.action t.state.context t.state.draws).1.map Prod.fst

theorem Sends.ready {r : Runner} {p : Position} {s : RunState} {q : Request} {draws : Draws}
    (h : Sends r p s q draws) : r.ready ⟨p, s⟩ = .ok q := by
  obtain ⟨hn, ⟨events, he⟩, -⟩ := h
  rw [Runner.ready, if_neg hn, he]
  rfl

/-- What a step sends, up to the values drawn: it has a name, the run has not been cancelled,
and the request is its own one in the context in which it begins. -/
theorem exists_sends_iff {r : Runner} {p : Position} {s : RunState} {q : Request} :
    (∃ draws, Sends r p s q draws) ↔ p.name ≠ "" ∧ s.cancelled = false ∧
      ∃ events, (r.resolution p.step.action s.context s.draws).1 = .ok (q, events) := by
  constructor
  · rintro ⟨draws, hnamed, ⟨events, hresolved⟩, hlive⟩
    exact ⟨hnamed, hlive, events, by rw [hresolved]⟩
  · rintro ⟨hnamed, hlive, events, hresolved⟩
    exact ⟨_, hnamed, ⟨events, Prod.ext hresolved rfl⟩, hlive⟩

/-- A step sends one request at most. -/
theorem Sends.unique {r : Runner} {p : Position} {s : RunState} {q q' : Request}
    {draws draws' : Draws} (h : Sends r p s q draws) (h' : Sends r p s q' draws') : q' = q :=
  Except.ok.inj (h'.ready.symm.trans h.ready)

/-- A turn sends the request that its step is ready for, if there is one. -/
theorem Taken.sent_eq {r : Runner} {p : Position} {s t : RunState} {x : Except Error StepResult}
    (h : Taken r p s x t) (hlive : s.cancelled = false) :
    t.sent = s.sent ++ (r.ready ⟨p, s⟩).toOption.toList := by
  cases h with
  | unnamed hn => simp [ready, hn, Except.toOption]
  | unresolved hn hq => simp [ready, hn, hq, Except.map, Except.toOption]
  | withheld hn hq hc => rw [hlive] at hc; cases hc
  | abandoned hq ho | refused hq ho => simp [hq.ready, Except.toOption]
  | failed hq ho hv | passed hq ho hv => simp [hq.ready, Except.toOption]

end Runner

end HttpChain
