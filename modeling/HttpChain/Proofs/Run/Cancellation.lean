import HttpChain.Proofs.Run.DataFlow

/-!
# HttpChain.Proofs.Run.Cancellation

A run that is cancelled, beside the run that is not.  Both get the same replies;
one of them is cancelled before it begins, while a request is under way, or
together with a reply.  Up to that point they do the same.  Behind it nothing
more is sent or bound, and the first step that is reached ends the run; where
there is none, the cancellation is not seen at all (`runChain_cancelled`).
-/

namespace HttpChain

/-! ## points of cancellation -/

/-- The reply to each request, by the number of requests before it, and what is
said meanwhile. -/
abbrev Replies := Nat → Request → Except Error Response × List Log.Event

/-- When a run is cancelled: before it begins, while the request with a number
is under way, so that its reply is not taken, or together with that reply, which
is taken.  Requests are numbered from zero. -/
inductive CancelPoint where
  | before
  | during (k : Nat)
  | along (k : Nat)
deriving DecidableEq

namespace CancelPoint

/-- The number of requests that have been sent at a point. -/
def sent : CancelPoint → Nat
  | before => 0
  | during k | along k => k + 1

/-- The number of replies that have been taken at a point. -/
def answered : CancelPoint → Nat
  | before => 0
  | during k => k
  | along k => k + 1

/-- Whether a point lies behind a run that has taken a number of replies. -/
def passed : CancelPoint → Nat → Bool
  | before, _ => true
  | during _, _ => false
  | along k, n => k < n

theorem answered_le_sent (pt : CancelPoint) : pt.answered ≤ pt.sent := by
  cases pt <;> simp [answered, sent]

theorem sent_le_answered_succ (pt : CancelPoint) : pt.sent ≤ pt.answered + 1 := by
  cases pt <;> simp [answered, sent]

theorem passed_of_lt {pt : CancelPoint} {n : Nat} (h : n < pt.answered) : pt.passed n = false := by
  cases pt with
  | before => exact absurd h (Nat.not_lt_zero n)
  | during k => rfl
  | along k =>
    have hk : ¬ k < n := by
      rw [answered] at h
      omega
    simp [passed, hk]

theorem passed_succ {pt : CancelPoint} {n : Nat} (h : n < pt.answered) :
    pt.passed (n + 1) = decide (pt = .along n) := by
  cases pt with
  | before => exact absurd h (Nat.not_lt_zero n)
  | during k => simp [passed]
  | along k =>
    simp only [answered] at h
    simp only [passed, along.injEq, decide_eq_decide]
    omega

end CancelPoint

namespace Replies

/-- Replies, up to a point of cancellation if there is one. -/
def exchange (f : Replies) (pt : Option CancelPoint) : Exchange := fun n q =>
  if pt = some (.during n) then ⟨none, true, (f n q).2⟩
  else ⟨some (f n q).1, pt = some (.along n), (f n q).2⟩

/-- A runner that gets replies, up to a point of cancellation if there is one. -/
def runner (f : Replies) (config : Config) (env : Environment) (pt : Option CancelPoint) : Runner :=
  ⟨config, env, f.exchange pt⟩

end Replies

namespace Runner

/-! ## one turn -/

/-- A turn shows at most one step. -/
theorem Taken.observed_eq {r : Runner} {p : Position} {s t : RunState} {x : Except Error StepResult}
    (h : Taken r p s x t) : ∃ shown, t.observed = s.observed ++ shown ∧ shown.length ≤ 1 := by
  cases h with
  | unnamed hn | unresolved hn hq | withheld hn hq hc | abandoned hq ho | refused hq ho =>
    exact ⟨[], (List.append_nil _).symm, Nat.zero_le 1⟩
  | failed hq ho hv | passed hq ho hv => exact ⟨_, rfl, Nat.le_refl 1⟩

section

variable {r : Runner} {p : Position} {s : RunState} {q : Request}

theorem exists_resolution_of_ready (h : r.ready ⟨p, s⟩ = .ok q) :
    p.name ≠ "" ∧
      ∃ events draws, r.resolution p.step.action s.context s.draws = (.ok (q, events), draws) := by
  rw [ready] at h
  split at h
  · cases h
  · next hn =>
    rcases hq : r.resolution p.step.action s.context s.draws with ⟨e | ⟨q', events⟩, draws⟩
    · simp [hq, Except.map] at h
    · simp only [hq, Except.map, Except.ok.injEq] at h
      exact ⟨hn, events, draws, by rw [← h]⟩

/-- A step that is not ready for a request ends the run. -/
theorem takeTurn_of_ready_error {e : Error} (h : r.ready ⟨p, s⟩ = .error e) :
    ∃ t, r.takeTurn p s = (.error e, t) ∧ t.context = s.context ∧ t.sent = s.sent ∧
      t.observed = s.observed := by
  rw [ready] at h
  split at h
  · next hn =>
    cases h
    obtain ⟨log, ht⟩ := takeTurn_of_taken (.unnamed (r := r) (s := s) hn)
    exact ⟨_, ht, rfl, rfl, rfl⟩
  · next hn =>
    rcases hq : r.resolution p.step.action s.context s.draws with ⟨e' | ⟨q', events⟩, draws⟩
    · simp only [hq, Except.map, Except.error.injEq] at h
      subst h
      obtain ⟨log, ht⟩ := takeTurn_of_taken (.unresolved hn hq)
      exact ⟨_, ht, rfl, rfl, rfl⟩
    · simp [hq, Except.map] at h

/-- In a run that has been cancelled, a step that is ready for a request does not
send it. -/
theorem takeTurn_of_cancelled (h : r.ready ⟨p, s⟩ = .ok q) (hc : s.cancelled = true) :
    ∃ t, r.takeTurn p s = (.error .cancelled, t) ∧ t.context = s.context ∧ t.sent = s.sent ∧
      t.observed = s.observed := by
  obtain ⟨hn, events, draws, hq⟩ := exists_resolution_of_ready h
  obtain ⟨log, ht⟩ := takeTurn_of_taken (@Taken.withheld _ _ _ _ _ _ [] hn hq hc)
  exact ⟨_, ht, rfl, rfl, rfl⟩

/-- A request whose reply is not taken leaves nothing behind. -/
theorem takeTurn_of_lost (h : r.ready ⟨p, s⟩ = .ok q) (hc : s.cancelled = false)
    (ho : (r.delivery s q).outcome = none) :
    ∃ t, r.takeTurn p s = (.error .cancelled, t) ∧ t.context = s.context ∧
      t.sent = s.sent ++ [q] ∧ t.observed = s.observed := by
  obtain ⟨hn, events, draws, hq⟩ := exists_resolution_of_ready h
  obtain ⟨log, ht⟩ := takeTurn_of_taken (@Taken.abandoned _ _ _ _ _ [] ⟨hn, ⟨events, hq⟩, hc⟩ ho)
  exact ⟨_, ht, rfl, rfl, rfl⟩

end

section

variable {f : Replies} {config : Config} {env : Environment} {pt : CancelPoint} {p : Position}
  {ps : List Position} {s t u : RunState}

theorem delivery_whole (s : RunState) (q : Request) :
    (f.runner config env none).delivery s q =
      ⟨some (f s.sent.length q).1, false, (f s.sent.length q).2⟩ := by
  simp [delivery, Replies.runner, Replies.exchange]

theorem delivery_cancelled (q : Request) (h : pt ≠ .during s.sent.length) :
    (f.runner config env (some pt)).delivery s q =
      ⟨some (f s.sent.length q).1, pt = .along s.sent.length, (f s.sent.length q).2⟩ := by
  simp [delivery, Replies.runner, Replies.exchange, h]

theorem delivery_lost (s : RunState) (q : Request) :
    (f.runner config env (some (.during s.sent.length))).delivery s q =
      ⟨none, true, (f s.sent.length q).2⟩ := by
  simp [delivery, Replies.runner, Replies.exchange]

/-- A state of the run that is cancelled, beside one of the whole run, from which
the next step begins. -/
structure Beside (pt : CancelPoint) (s t : RunState) : Prop where
  context : t.context = s.context
  draws : t.draws = s.draws
  sent : t.sent = s.sent
  observed : t.observed = s.observed
  live : s.cancelled = false
  cancelled : t.cancelled = pt.passed s.sent.length
  even : s.observed.length = s.sent.length

theorem Beside.resolution_eq (h : Beside pt s t) {x : Except Error (Request × List Log.Event)}
    {draws : Draws}
    (hq : (f.runner config env none).resolution p.step.action s.context s.draws = (x, draws)) :
    (f.runner config env (some pt)).resolution p.step.action t.context t.draws = (x, draws) := by
  rw [h.context, h.draws]
  exact hq

theorem Beside.ready_eq (h : Beside pt s t) (p : Position) :
    (f.runner config env (some pt)).ready ⟨p, t⟩ = (f.runner config env none).ready ⟨p, s⟩ := by
  rw [ready, ready, h.context, h.draws]
  rfl

theorem Beside.captured_eq (h : Beside pt s t) (response : Response) :
    captured p response t = captured p response s := by
  rw [captured, captured, h.context]

/-- Before the point both runs take the same turn. -/
theorem Beside.turn {x : Except Error StepResult} (h : Beside pt s t)
    (hlt : s.sent.length < pt.answered)
    (hturn : (f.runner config env none).takeTurn p s = (x, u)) :
    ∃ v, (f.runner config env (some pt)).takeTurn p t = (x, v) ∧ v.context = u.context ∧
      v.sent = u.sent ∧ v.observed = u.observed ∧ ∀ result, x = .ok result → Beside pt u v := by
  have hlive : t.cancelled = false := h.cancelled.trans (CancelPoint.passed_of_lt hlt)
  have hduring : pt ≠ .during t.sent.length := by
    rintro rfl
    rw [CancelPoint.answered, h.sent] at hlt
    exact Nat.lt_irrefl _ hlt
  have hdelivery : ∀ q, ((f.runner config env (some pt)).delivery t q).outcome =
      ((f.runner config env none).delivery s q).outcome := by
    intro q
    rw [delivery_cancelled q hduring, delivery_whole, h.sent]
  have hsends : ∀ {q draws}, Sends (f.runner config env none) p s q draws →
      Sends (f.runner config env (some pt)) p t q draws := by
    rintro q draws ⟨hn, ⟨events, he⟩, -⟩
    exact ⟨hn, ⟨events, h.resolution_eq he⟩, hlive⟩
  cases taken_of_takeTurn hturn with
  | unnamed hn =>
    obtain ⟨log, hv⟩ := takeTurn_of_taken (.unnamed (r := f.runner config env (some pt)) (s := t) hn)
    exact ⟨_, hv, h.context, h.sent, h.observed, fun _ hx => by cases hx⟩
  | unresolved hn hq =>
    obtain ⟨log, hv⟩ := takeTurn_of_taken (.unresolved hn (h.resolution_eq hq))
    exact ⟨_, hv, h.context, h.sent, h.observed, fun _ hx => by cases hx⟩
  | withheld hn hq hc => rw [h.live] at hc; cases hc
  | abandoned hq ho => rw [delivery_whole] at ho; cases ho
  | refused hq ho =>
    obtain ⟨log, hv⟩ := takeTurn_of_taken
      (@Taken.refused _ _ _ _ _ [] _ (hsends hq) ((hdelivery _).trans ho))
    exact ⟨_, hv, h.context, by rw [h.sent], h.observed, fun _ hx => by cases hx⟩
  | @failed q draws draws' log response v hq ho hv =>
    have hcaptured : captured p response t = captured p response s := h.captured_eq response
    obtain ⟨log, hturn⟩ := takeTurn_of_taken (@Taken.failed _ _ _ _ _ _ [] _ _ (hsends hq)
      ((hdelivery _).trans ho) (by rw [hcaptured]; exact hv))
    refine ⟨_, hturn, by rw [hcaptured], by rw [h.sent], ?_, fun _ hx => by cases hx⟩
    rw [h.observed, hcaptured]
  | @passed q draws draws' log response vs hq ho hv =>
    have hcaptured : captured p response t = captured p response s := h.captured_eq response
    obtain ⟨log, hturn⟩ := takeTurn_of_taken (@Taken.passed _ _ _ _ _ _ [] _ _ (hsends hq)
      ((hdelivery _).trans ho) (by rw [hcaptured]; exact hv))
    rw [hcaptured] at hturn
    refine ⟨_, hturn, rfl, by rw [h.sent], by rw [h.observed], fun _ _ => ?_⟩
    refine ⟨rfl, rfl, by rw [h.sent], by rw [h.observed], ?_, ?_, ?_⟩
    · rw [delivery_whole]
    · simp only [List.length_append, List.length_singleton]
      rw [delivery_cancelled q hduring, CancelPoint.passed_succ hlt, h.sent]
    · simp [h.even]

/-- The first turn behind the point: nothing is bound or shown, and the run ends. -/
theorem Beside.turn_at (h : Beside pt s t) (heq : s.sent.length = pt.answered) (p : Position) :
    ∃ v, (f.runner config env (some pt)).takeTurn p t =
        (.error (match (f.runner config env none).ready ⟨p, s⟩ with
          | .error e => e
          | .ok _ => .cancelled), v) ∧
      v.context = s.context ∧ v.observed = s.observed ∧
      v.sent =
        (s.sent ++ ((f.runner config env none).ready ⟨p, s⟩).toOption.toList).take pt.sent := by
  have hready : (f.runner config env (some pt)).ready ⟨p, t⟩ =
      (f.runner config env none).ready ⟨p, s⟩ := h.ready_eq p
  cases hfree : (f.runner config env none).ready ⟨p, s⟩ with
  | error e =>
    obtain ⟨v, hv, hcontext, hsent, hobserved⟩ := takeTurn_of_ready_error (hready.trans hfree)
    have hlength : s.sent.length ≤ pt.sent := heq ▸ pt.answered_le_sent
    refine ⟨v, hv, hcontext.trans h.context, hobserved.trans h.observed, ?_⟩
    simp [Except.toOption, hsent, h.sent, List.take_of_length_le hlength]
  | ok q =>
    have hcancelled := h.cancelled
    cases hc : t.cancelled with
    | true =>
      obtain ⟨v, hv, hcontext, hsent, hobserved⟩ :=
        takeTurn_of_cancelled (hready.trans hfree) hc
      have hcount : pt.sent = s.sent.length := by
        rw [hc] at hcancelled
        cases pt with
        | before => exact heq.symm
        | during k => cases hcancelled
        | along k => exact heq.symm
      refine ⟨v, hv, hcontext.trans h.context, hobserved.trans h.observed, ?_⟩
      rw [hcount, List.take_left, hsent, h.sent]
    | false =>
      have hpt : pt = .during t.sent.length := by
        rw [hc] at hcancelled
        cases pt with
        | before => cases hcancelled
        | during k => rw [h.sent, heq]; rfl
        | along k => simp [CancelPoint.passed, CancelPoint.answered, heq] at hcancelled
      have hcount : pt.sent = s.sent.length + 1 := by rw [hpt, CancelPoint.sent, h.sent]
      obtain ⟨v, hv, hcontext, hsent, hobserved⟩ :=
        takeTurn_of_lost (hready.trans hfree) hc (by rw [hpt, delivery_lost])
      refine ⟨v, hv, hcontext.trans h.context, hobserved.trans h.observed, ?_⟩
      rw [hcount, hsent, h.sent, List.take_of_length_le (by simp [Except.toOption])]
      rfl

/-! ## the whole run -/

/-- What a run that is cancelled comes to, beside the whole one.  The steps of the
whole run begin in the given turns, the first of them after a number of replies. -/
structure CutShort (r : Runner) (pt : CancelPoint) (n : Nat) (ts ts' : List Turn)
    (x y : Except Error (List StepResult)) (u v : RunState) : Prop where
  sent : v.sent = u.sent.take pt.sent
  observed : v.observed = u.observed.take pt.answered
  begun : ts'.map Turn.position = (ts.map Turn.position).take (pt.answered + 1 - n)
  ending : match ts[pt.answered - n]? with
    | none => y = x ∧ v.context = u.context
    | some t => v.context = t.state.context ∧
      y = .error (match r.ready t with
        | .error e => e
        | .ok _ => .cancelled)

/-- At the point, the first step that is reached is the last one. -/
theorem Course.cutShort_at {x : Except Error (List StepResult)} {ts : List Turn}
    (hcourse : Course (f.runner config env none) (p :: ps) s ts x u) (h : Beside pt s t)
    (heq : s.sent.length = pt.answered) :
    CutShort (f.runner config env none) pt s.sent.length ts
      ((f.runner config env (some pt)).turns (p :: ps) t) x
      ((f.runner config env (some pt)).runPositions (p :: ps) t).1 u
      ((f.runner config env (some pt)).runPositions (p :: ps) t).2 := by
  obtain ⟨v, hv, hcontext, hobserved, hsent⟩ := @Beside.turn_at f config env pt s t h heq p
  rw [runPositions_cons_error hv, turns_cons_error hv]
  obtain ⟨sends, shown, hflow⟩ := hcourse.flow
  have hshown : u.observed.take pt.answered = s.observed := by
    rw [hflow.observed, ← heq, ← h.even, List.take_left]
  cases hcourse with
  | stop hturn =>
    refine ⟨?_, hobserved.trans hshown.symm, by simp [heq], by simp [heq, hcontext]⟩
    rw [hsent, (taken_of_takeTurn hturn).sent_eq h.live]
  | @step _ _ _ w _ result ts x hturn rest =>
    obtain ⟨more, _, hrest⟩ := rest.flow
    have hbefore := (taken_of_takeTurn hturn).sent_eq h.live
    refine ⟨?_, hobserved.trans hshown.symm, by simp [heq], by simp [heq, hcontext]⟩
    have hlength : pt.sent ≤ w.sent.length := by
      have hready : w.sent.length = s.sent.length + 1 := by
        cases taken_of_takeTurn hturn with
        | passed hq ho hv => simp
      have := pt.sent_le_answered_succ
      omega
    rw [hsent, ← hbefore, hrest.sent, List.take_append_of_le_length hlength]

/-- A run that is cancelled does as the whole one up to the point. -/
theorem Course.cutShort {x : Except Error (List StepResult)} {ts : List Turn}
    (hcourse : Course (f.runner config env none) ps s ts x u) (h : Beside pt s t)
    (hle : s.sent.length ≤ pt.answered) :
    CutShort (f.runner config env none) pt s.sent.length ts
      ((f.runner config env (some pt)).turns ps t) x
      ((f.runner config env (some pt)).runPositions ps t).1 u
      ((f.runner config env (some pt)).runPositions ps t).2 := by
  have hsent := pt.answered_le_sent
  induction hcourse generalizing t with
  | done =>
    rw [runPositions_nil, turns_nil]
    refine ⟨?_, ?_, by simp, by simp [h.context]⟩
    · rw [List.take_of_length_le (by omega), h.sent]
    · rw [List.take_of_length_le (by rw [h.even]; omega), h.observed]
  | @stop p ps s u e hturn =>
    by_cases heq : s.sent.length = pt.answered
    · exact (Course.stop hturn).cutShort_at h heq
    have htaken := taken_of_takeTurn hturn
    obtain ⟨shown, hshown, hcount⟩ := htaken.observed_eq
    have hobservedLength : u.observed.length ≤ pt.answered := by
      rw [hshown, List.length_append, h.even]
      omega
    have hsentLength : u.sent.length ≤ pt.sent := by
      have hone := Option.length_toList_le (o := ((f.runner config env none).ready ⟨p, s⟩).toOption)
      rw [htaken.sent_eq h.live, List.length_append]
      omega
    obtain ⟨v, hv, hcontext, hsent', hobserved, -⟩ := h.turn (by omega) hturn
    rw [runPositions_cons_error hv, turns_cons_error hv]
    have hbehind : [(⟨p, s⟩ : Turn)][pt.answered - s.sent.length]? = none := by
      simp
      omega
    refine ⟨?_, ?_, ?_, ?_⟩
    · rw [List.take_of_length_le hsentLength, hsent']
    · rw [List.take_of_length_le hobservedLength, hobserved]
    · rw [List.take_of_length_le (by simp; omega)]
      rfl
    · rw [hbehind]
      exact ⟨rfl, hcontext⟩
  | @step p ps s u w result ts x hturn rest ih =>
    by_cases heq : s.sent.length = pt.answered
    · exact (Course.step hturn rest).cutShort_at h heq
    obtain ⟨v, hv, hcontext, hsent', hobserved, hbeside⟩ := h.turn (by omega) hturn
    have hnext : u.sent.length = s.sent.length + 1 := by
      cases taken_of_takeTurn hturn with
      | passed hq ho hv => simp
    have hrest := ih (hbeside result rfl) (by omega)
    rw [runPositions_cons_ok hv, proceed_map, turns_cons_ok hv]
    have hbehind : pt.answered - s.sent.length = pt.answered - u.sent.length + 1 := by omega
    have hcount : pt.answered + 1 - s.sent.length = pt.answered + 1 - u.sent.length + 1 := by omega
    refine ⟨hrest.sent, hrest.observed, ?_, ?_⟩
    · rw [hcount, List.map_cons, List.map_cons, List.take_succ_cons, hrest.begun]
    · have hending := hrest.ending
      rw [hbehind, List.getElem?_cons_succ]
      cases hat : ts[pt.answered - u.sent.length]? with
      | none =>
        rw [hat] at hending
        exact ⟨congrArg (Except.map (result :: ·)) hending.1, hending.2⟩
      | some turn =>
        rw [hat] at hending
        exact ⟨hending.1, by rw [hending.2]; rfl⟩

end

/-- A step that is not ready for a request has no name, or an unknown one, or a
method or a URL that is none. -/
theorem error_of_ready {r : Runner} {t : Turn} {e : Error} (h : r.ready t = .error e) :
    t.position.name = "" ∨ (∃ f, e = .config f) ∨ ∃ name, e = .unknownRequest name := by
  rw [ready] at h
  split at h
  · next hn => exact .inl hn
  · rcases hq : (r.resolution t.position.step.action t.state.context t.state.draws).1 with e' | q
    · rw [hq] at h
      cases h
      exact .inr (error_of_resolution hq)
    · rw [hq] at h
      cases h

/-- A run that is cancelled at some point, beside the run with the same replies
that is not.  The requests sent are those of the whole run until the point, and
so are the steps shown, with all that is on record of them.  If the whole run
has a step behind the replies that were taken, that step is the last one to
begin: it binds nothing, and it ends the run as cancelled, unless it has no
request to send, which is then the error.  If the whole run has no such step,
the run that is cancelled ends as it does, in the same context. -/
theorem runChain_cancelled (config : Config) (env : Environment) (f : Replies) (pt : CancelPoint)
    (c : Chain) (ctx : Context) (draws : Draws) :
    let free := f.runner config env none
    let s := RunState.start ctx draws false
    let whole := free.runChain c s
    let cut := f.runner config env (some pt)
    let s' := RunState.start ctx draws (pt = .before)
    let run := cut.runChain c s'
    run.2.sent = whole.2.sent.take pt.sent ∧
      run.2.observed = whole.2.observed.take pt.answered ∧
      cut.begun c s' = (free.begun c s).take (pt.answered + 1) ∧
      match (free.turnsOf c s)[pt.answered]? with
      | none => run.1 = whole.1 ∧ run.2.context = whole.2.context
      | some t => run.2.context = t.state.context ∧
        match free.ready t with
        | .ok _ => run.1 = .error (.chainFailed c.name .cancelled)
        | .error e => run.1 = .error (.chainFailed c.name e) ∧
          (t.position.name = "" ∨ (∃ fault, e = .config fault) ∨
            ∃ name, e = .unknownRequest name) := by
  intro free s whole cut s' run
  have hbeside : Beside pt (opened c s) (opened c s') := by
    refine ⟨rfl, rfl, rfl, rfl, rfl, ?_, rfl⟩
    cases pt <;> rfl
  have hcut := (free.course c.positions (opened c s)).cutShort hbeside (Nat.zero_le _)
  obtain ⟨log, hwhole⟩ := free.snd_runChain c s
  obtain ⟨log', hrun⟩ := cut.snd_runChain c s'
  have hfirst := free.fst_runChain c s
  have hfirst' := cut.fst_runChain c s'
  refine ⟨?_, ?_, hcut.begun, ?_⟩
  · simp only [run, whole, hrun, hwhole]
    exact hcut.sent
  · simp only [run, whole, hrun, hwhole]
    exact hcut.observed
  · have hnone : (opened c s).sent.length = 0 := rfl
    have hending := hcut.ending
    rw [hnone, Nat.sub_zero, ← turnsOf] at hending
    simp only [run, whole, hrun, hwhole, hfirst, hfirst']
    cases hat : (free.turnsOf c s)[pt.answered]? with
    | none =>
      simp only [free] at hat
      rw [hat] at hending
      obtain ⟨hx, hcontext⟩ := hending
      exact ⟨by rw [hx], hcontext⟩
    | some t =>
      simp only [free] at hat
      rw [hat] at hending
      obtain ⟨hcontext, hx⟩ := hending
      refine ⟨hcontext, ?_⟩
      cases hready : free.ready t with
      | ok q =>
        simp only [free] at hready
        rw [hready] at hx
        rw [hx]
      | error e =>
        have hcause := error_of_ready hready
        simp only [free] at hready
        rw [hready] at hx
        exact ⟨by rw [hx], hcause⟩

end Runner

end HttpChain
