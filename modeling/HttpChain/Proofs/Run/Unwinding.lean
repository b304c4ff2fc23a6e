import HttpChain.Proofs.Run.Turn

/-!
# HttpChain.Proofs.Run.Unwinding

How a run ends.  The first turn that ends with an error is the last one, on
every level of the chain at once: its error comes out as it is, named once for
the chain, and its state is the final one (`runChain_unwinds`).  What was sent
and what was shown can be told apart by one request at most, and `Error.Leaves`
says when.
-/

namespace HttpChain

/-- What a run leaves behind that ends with an error: how the requests it has
sent stand to the steps it has shown, and which of these have failed.  The
error was met at a step with the given name. -/
def Error.Leaves (e : Error) (name : String) (sends : List Request)
    (shown : List (StepResult × Response)) : Prop :=
  match e with
  | .assertionFailed .. =>
    sends.length = shown.length ∧ ∃ earlier last, shown = earlier ++ [last] ∧
      last.1.request = name ∧ last.1.failure = some e.message ∧ last.1.assertions = [] ∧
      last.1.branched = false ∧ ∀ o ∈ earlier, o.1.failure = none
  | .transport request _ =>
    request = name ∧ sends.length = shown.length + 1 ∧ ∀ o ∈ shown, o.1.failure = none
  | .cancelled =>
    (sends.length = shown.length ∨ sends.length = shown.length + 1) ∧
      ∀ o ∈ shown, o.1.failure = none
  | _ => sends.length = shown.length ∧ ∀ o ∈ shown, o.1.failure = none

namespace Error

/-- A step that passed, ahead of the others. -/
theorem Leaves.cons {e : Error} {name : String} {sends : List Request}
    {shown : List (StepResult × Response)} (h : e.Leaves name sends shown) (q : Request)
    {o : StepResult × Response} (ho : o.1.failure = none) :
    e.Leaves name (q :: sends) (o :: shown) := by
  unfold Leaves at h
  split at h
  · obtain ⟨hlength, earlier, last, rfl, hname, hfailure, hverdicts, hbranched, hearlier⟩ := h
    exact ⟨by simpa using hlength, o :: earlier, last, rfl, hname, hfailure, hverdicts, hbranched,
      List.forall_mem_cons.2 ⟨ho, hearlier⟩⟩
  · obtain ⟨hname, hlength, hpassed⟩ := h
    exact ⟨hname, by simpa using hlength, List.forall_mem_cons.2 ⟨ho, hpassed⟩⟩
  · obtain ⟨hlength, hpassed⟩ := h
    exact ⟨by simpa using hlength, List.forall_mem_cons.2 ⟨ho, hpassed⟩⟩
  · next hassertion htransport hcancelled =>
    obtain ⟨hlength, hpassed⟩ := h
    unfold Leaves
    split
    · exact (hassertion _ _ _ _ rfl).elim
    · exact (htransport _ _ rfl).elim
    · exact (hcancelled rfl).elim
    · exact ⟨by simpa using hlength, List.forall_mem_cons.2 ⟨ho, hpassed⟩⟩

/-- A run in which nothing has happened but an error that is none of a reply. -/
theorem Leaves.ofConfig {e : Error} (he : (∃ f, e = .config f) ∨ ∃ n, e = .unknownRequest n)
    (name : String) : e.Leaves name [] [] := by
  rcases he with ⟨f, rfl⟩ | ⟨n, rfl⟩ <;> exact ⟨rfl, fun o ho => by simp at ho⟩

end Error

namespace Runner

/-- An error that ends a turn, and what the turn leaves behind. -/
theorem Taken.leaves {r : Runner} {p : Position} {s t : RunState} {e : Error}
    (h : Taken r p s (.error e) t) :
    ∃ sends shown, t.sent = s.sent ++ sends ∧ t.observed = s.observed ++ shown ∧
      e.Leaves p.name sends shown := by
  have hnone : ∀ o ∈ ([] : List (StepResult × Response)), o.1.failure = none :=
    fun o ho => by simp at ho
  cases h with
  | unnamed hn =>
    exact ⟨[], [], (List.append_nil _).symm, (List.append_nil _).symm, rfl, hnone⟩
  | unresolved hn hq =>
    have he := error_of_resolution (congrArg Prod.fst hq)
    exact ⟨[], [], (List.append_nil _).symm, (List.append_nil _).symm, .ofConfig he p.name⟩
  | withheld hn hq hc =>
    exact ⟨[], [], (List.append_nil _).symm, (List.append_nil _).symm, .inl rfl, hnone⟩
  | abandoned hq ho => exact ⟨_, [], rfl, (List.append_nil _).symm, .inr rfl, hnone⟩
  | refused hq ho => exact ⟨_, [], rfl, (List.append_nil _).symm, rfl, rfl, hnone⟩
  | failed hq ho hv =>
    exact ⟨_, _, rfl, rfl, rfl, [], _, rfl, rfl, rfl, rfl, rfl, hnone⟩

/-- An error is named for its chain only when it leaves the chain. -/
theorem Taken.error_ne_chainFailed {r : Runner} {p : Position} {s t : RunState} {e : Error}
    (h : Taken r p s (.error e) t) (name : String) (cause : Error) :
    e ≠ .chainFailed name cause := by
  rintro rfl
  cases h with
  | unresolved hn hq =>
    rcases error_of_resolution (congrArg Prod.fst hq) with ⟨f, hf⟩ | ⟨n, hn⟩
    · cases hf
    · cases hn

/-- How a run has ended: every turn passed, or all but the last. -/
def Ended (r : Runner) (ts : List Turn) (x : Except Error (List StepResult)) (u : RunState)
    (sends : List Request) (shown : List (StepResult × Response)) : Prop :=
  match x with
  | .ok results =>
    (∀ t ∈ ts, ∃ result v, r.takeTurn t.position t.state = (.ok result, v)) ∧
      ts.length = sends.length ∧ sends.length = shown.length ∧ results = shown.map Prod.fst ∧
      ∀ o ∈ shown, o.1.failure = none
  | .error e =>
    ∃ before last, ts = before ++ [last] ∧ r.takeTurn last.position last.state = (.error e, u) ∧
      (∀ t ∈ before, ∃ result v, r.takeTurn t.position t.state = (.ok result, v)) ∧
      e.Leaves last.position.name sends shown

/-- Every run ends in one of the two ways. -/
theorem Course.ended {r : Runner} {ps : List Position} {s u : RunState} {ts : List Turn}
    {x : Except Error (List StepResult)} (h : Course r ps s ts x u) :
    ∃ sends shown, u.sent = s.sent ++ sends ∧ u.observed = s.observed ++ shown ∧
      Ended r ts x u sends shown := by
  induction h with
  | done =>
    exact ⟨[], [], (List.append_nil _).symm, (List.append_nil _).symm, fun t ht => by simp at ht,
      rfl, rfl, rfl, fun o ho => by simp at ho⟩
  | @stop p ps s t e h =>
    obtain ⟨sends, shown, hsent, hobserved, hleaves⟩ := (taken_of_takeTurn h).leaves
    exact ⟨sends, shown, hsent, hobserved, [], ⟨p, s⟩, rfl, h, fun v hv => by simp at hv, hleaves⟩
  | @step p ps s t u result ts x h rest ih =>
    obtain ⟨sends, shown, hsent, hobserved, hended⟩ := ih
    cases taken_of_takeTurn h with
    | @passed q draws draws' log response vs hq ho hv =>
      refine ⟨q :: sends, _ :: shown, by rw [hsent, List.append_assoc, List.singleton_append],
        by rw [hobserved, List.append_assoc, List.singleton_append], ?_⟩
      cases x with
      | ok results =>
        obtain ⟨hturns, hlong, hlength, rfl, hpassed⟩ := hended
        exact ⟨List.forall_mem_cons.2 ⟨⟨_, _, h⟩, hturns⟩, by simpa using hlong,
          by simpa using hlength, rfl, List.forall_mem_cons.2 ⟨rfl, hpassed⟩⟩
      | error e =>
        obtain ⟨before, last, rfl, hlast, hbefore, hleaves⟩ := hended
        exact ⟨⟨p, s⟩ :: before, last, rfl, hlast,
          List.forall_mem_cons.2 ⟨⟨_, _, h⟩, hbefore⟩, hleaves.cons q rfl⟩

/-- The end of a run of a chain.  In a run that passes every turn has passed, with a
request sent, shown and reported for each; none of the steps has failed.  Any other run
ends with the error of its last turn, which is the first one to have an error: that error
is named for the chain once and otherwise unchanged, nothing is sent or shown behind that
turn, and the requests sent and steps shown until then are as `Error.Leaves` says. -/
theorem runChain_unwinds (r : Runner) (c : Chain) (ctx : Context) (draws : Draws)
    (cancelled : Bool) :
    let s := RunState.start ctx draws cancelled
    let final := (r.runChain c s).2
    match (r.runChain c s).1 with
    | .ok report =>
      (∀ t ∈ r.turnsOf c s, ∃ result v, r.takeTurn t.position t.state = (.ok result, v)) ∧
        (r.turnsOf c s).length = final.sent.length ∧
        final.sent.length = final.observed.length ∧
        final.observed.length = report.steps.length ∧ ∀ o ∈ final.observed, o.1.failure = none
    | .error err =>
      ∃ e before last, err = .chainFailed c.name e ∧
        (∀ name cause, e ≠ .chainFailed name cause) ∧
        r.turnsOf c s = before ++ [last] ∧
        r.takeTurn last.position last.state = (.error e, final) ∧
        (∀ t ∈ before, ∃ result v, r.takeTurn t.position t.state = (.ok result, v)) ∧
        e.Leaves last.position.name final.sent final.observed := by
  intro s final
  obtain ⟨x, u, hcourse, hrun⟩ := r.course_runChain c s
  obtain ⟨sends, shown, hsent, hobserved, hended⟩ := hcourse.ended
  have hsent : u.sent = sends := hsent
  have hobserved : u.observed = shown := hobserved
  simp only [final, hrun]
  cases x with
  | ok results =>
    obtain ⟨hturns, hlong, hlength, rfl, hpassed⟩ := hended
    refine ⟨hturns, ?_, ?_, ?_, ?_⟩
    · simpa [RunState.say, hsent] using hlong
    · simpa [RunState.say, hsent, hobserved] using hlength
    · simp [RunState.say, hobserved]
    · simpa [RunState.say, hobserved] using hpassed
  | error e =>
    obtain ⟨before, last, hts, hlast, hbefore, hleaves⟩ := hended
    refine ⟨e, before, last, rfl, ?_, hts, hlast, hbefore, ?_⟩
    · exact (taken_of_takeTurn hlast).error_ne_chainFailed
    · rwa [hsent, hobserved]

end Runner

end HttpChain
