import HttpChain.Proofs.Run.DataFlow
import Mathlib.Data.List.Basic

/-!
# HttpChain.Proofs.Run.Noninterference

What replies tell a run.  Of a reply a step takes its status, or its failure, and
what its captures take of the body; two runs whose replies agree in that much
send the same requests and come to the same, up to the time that the replies
took (`runChain_noninterference`).  What requests write back into a config is no
part of a run at all.
-/

namespace HttpChain

/-! ## what a step takes of a reply -/

namespace Capture

/-- What a capture takes of a response body, if its path selects anything. -/
def taken? (c : Capture) (body : String) : Option Json :=
  (Json.read? body).bind fun document => (c.value document).toOption

theorem hit?_eq (document : Json) (c : Capture) :
    hit? document c = (c.value document).toOption.map fun v => (c.name, v) := by
  rw [hit?]
  cases c.value document <;> rfl

theorem hits_eq (captures : List Capture) (body : String) :
    hits captures body = captures.filterMap fun c => (c.taken? body).map fun v => (c.name, v) := by
  rw [hits]
  cases h : Json.read? body with
  | none => simp [taken?, h]
  | some document =>
    refine List.filterMap_congr fun c _ => ?_
    rw [hit?_eq, taken?, h, Option.bind_some]

/-- Captures that take the same of two bodies bind the same. -/
theorem hits_congr {captures : List Capture} {a b : String}
    (h : ∀ c ∈ captures, c.taken? a = c.taken? b) : hits captures a = hits captures b := by
  rw [hits_eq, hits_eq]
  exact List.filterMap_congr fun c hc => by rw [h c hc]

end Capture

namespace Delivery

/-- Two deliveries that a step with the given captures cannot tell apart: both
leave the request without a reply, fail alike, or have a response of the same
status, of whose body each capture takes the same. -/
def Agree (captures : List Capture) (d e : Delivery) : Prop :=
  d.cancels = e.cancels ∧
    match d.outcome, e.outcome with
    | none, none => True
    | some (.error x), some (.error y) => x = y
    | some (.ok a), some (.ok b) =>
      a.status = b.status ∧ ∀ c ∈ captures, c.taken? a.body = c.taken? b.body
    | _, _ => False

variable {captures : List Capture} {d e : Delivery}

theorem Agree.none (h : Agree captures d e) (hd : d.outcome = none) : e.outcome = none := by
  obtain ⟨-, h⟩ := h
  rw [hd] at h
  split at h
  · assumption
  all_goals simp_all

theorem Agree.error {x : Error} (h : Agree captures d e) (hd : d.outcome = some (.error x)) :
    e.outcome = some (.error x) := by
  obtain ⟨-, h⟩ := h
  rw [hd] at h
  split at h <;> simp_all

theorem Agree.ok {a : Response} (h : Agree captures d e) (hd : d.outcome = some (.ok a)) :
    ∃ b, e.outcome = some (.ok b) ∧ b.status = a.status ∧
      Capture.hits captures b.body = Capture.hits captures a.body := by
  obtain ⟨-, h⟩ := h
  rw [hd] at h
  split at h
  · simp_all
  · simp_all
  · next a' b ha hb =>
    cases ha
    exact ⟨b, hb, h.1.symm, (Capture.hits_congr h.2).symm⟩
  · cases h

end Delivery

/-- The result of a step, whatever time its response took. -/
def StepResult.untimed (x : StepResult) : StepResult := { x with duration := 0 }

/-- The report of steps, whatever time their responses took. -/
def Report.untimed (x : Report) : Report := { x with steps := x.steps.map StepResult.untimed }

/-! ## what a config tells a run -/

/-- A saved request without what it writes back. -/
def RequestTemplate.withoutWriteBack (t : RequestTemplate) : RequestTemplate :=
  { t with extractCookie := none, extractToConfig := {} }

namespace Config

/-- Two configs that differ at most in what their requests write back. -/
structure AgreeOnSending (a b : Config) : Prop where
  baseUrl : b.baseUrl = a.baseUrl
  timeout : b.timeout = a.timeout
  headers : b.headers = a.headers
  auth : b.auth = a.auth
  requests : ∀ name, (b.requests.get? name).map RequestTemplate.withoutWriteBack =
    (a.requests.get? name).map RequestTemplate.withoutWriteBack
  chains : b.chains = a.chains

variable {a b : Config}

theorem AgreeOnSending.resolve_eq (h : AgreeOnSending a b) {t t' : RequestTemplate}
    (ht : t'.withoutWriteBack = t.withoutWriteBack) (env : Environment) (ctx : Context) :
    b.resolve env t' ctx = a.resolve env t ctx := by
  obtain ⟨method, url, body, headers, noAuth, noHeaders, extractCookie, extractToConfig⟩ := t
  obtain ⟨method', url', body', headers', noAuth', noHeaders', extractCookie', extractToConfig'⟩ := t'
  simp only [RequestTemplate.withoutWriteBack, RequestTemplate.mk.injEq, and_true] at ht
  obtain ⟨rfl, rfl, rfl, rfl, rfl, rfl⟩ := ht
  simp only [resolve, resolveUrl, absoluteUrl, base, assemble, sharedHeaders, commonHeaders,
    cookie, credentials, h.baseUrl, h.headers, h.auth]

theorem AgreeOnSending.resolveNamed_eq (h : AgreeOnSending a b) (env : Environment)
    (name : String) (ctx : Context) :
    b.resolveNamed env name ctx = a.resolveNamed env name ctx := by
  have hrequest := h.requests name
  rw [resolveNamed, resolveNamed, request, request]
  cases ha : a.requests.get? name with
  | none =>
    rw [ha, Option.map_none, Option.map_eq_none_iff] at hrequest
    rw [hrequest]
    rfl
  | some t =>
    rw [ha, Option.map_some] at hrequest
    obtain ⟨t', ht', heq⟩ := Option.map_eq_some_iff.1 hrequest
    rw [ht']
    exact h.resolve_eq heq env ctx

end Config

namespace Runner

variable {r r' : Runner}

theorem resolution_eq (hconfig : r.config.AgreeOnSending r'.config)
    (henv : r'.environment = r.environment) : r'.resolution = r.resolution := by
  funext a ctx
  simp only [resolution, henv, hconfig.resolveNamed_eq]

/-! ## one turn -/

end Runner

/-- Of the response itself, a result shows nothing but its status and its time. -/
theorem Position.untimed_result (p : Position) {a b : Response} (h : b.status = a.status)
    (q : Request) (names : List String) (verdicts : List Assertion.Verdict)
    (failure : Option String) (branched : Bool) :
    (p.result q b names verdicts failure branched).untimed =
      (p.result q a names verdicts failure branched).untimed := by
  simp only [result, StepResult.untimed, h]

/-- Two runs that differ at most in the responses they have seen and in what was
said. -/
structure RunState.Indistinct (s t : RunState) : Prop where
  context : t.context = s.context
  draws : t.draws = s.draws
  cancelled : t.cancelled = s.cancelled
  sent : t.sent = s.sent
  observed : t.observed.map (fun o => o.1.untimed) = s.observed.map fun o => o.1.untimed

namespace Runner

section

variable {r r' : Runner} {p : Position} {ps : List Position} {s s' t : RunState}

/-- Captures that take the same of two responses bind the same in both runs. -/
theorem captured_congr {a b : Response} (hcontext : s'.context = s.context)
    (hhits : Capture.hits p.step.action.extract b.body =
      Capture.hits p.step.action.extract a.body) :
    (captured p b s').context = (captured p a s).context ∧
      (captured p b s').names = (captured p a s).names := by
  rw [captured, captured, context_capture, context_capture, names_capture, names_capture, hcontext,
    hhits]
  exact ⟨rfl, rfl⟩

/-- A turn comes to the same in both runs. -/
theorem Taken.indistinct {x : Except Error StepResult} (h : Taken r p s x t)
    (hs : s.Indistinct s') (hresolution : r'.resolution = r.resolution)
    (hagree : ∀ q draws, Sends r p s q draws →
      (r.delivery s q).Agree p.step.action.extract (r'.delivery s' q)) :
    ∃ x' t', r'.takeTurn p s' = (x', t') ∧
      x'.map StepResult.untimed = x.map StepResult.untimed ∧ t.Indistinct t' := by
  have hq' : ∀ {y draws}, r.resolution p.step.action s.context s.draws = (y, draws) →
      r'.resolution p.step.action s'.context s'.draws = (y, draws) := by
    intro y draws hq
    rw [hresolution, hs.context, hs.draws, hq]
  have hsends : ∀ {q draws}, Sends r p s q draws → Sends r' p s' q draws := by
    rintro q draws ⟨hn, ⟨events, he⟩, hlive⟩
    exact ⟨hn, ⟨events, hq' he⟩, hs.cancelled.trans hlive⟩
  cases h with
  | unnamed hn =>
    obtain ⟨log, hv⟩ := takeTurn_of_taken (.unnamed (r := r') (s := s') hn)
    exact ⟨_, _, hv, rfl, hs.context, hs.draws, hs.cancelled, hs.sent, hs.observed⟩
  | unresolved hn hq =>
    obtain ⟨log, hv⟩ := takeTurn_of_taken (.unresolved hn (hq' hq))
    exact ⟨_, _, hv, rfl, hs.context, rfl, hs.cancelled, hs.sent, hs.observed⟩
  | withheld hn hq hc =>
    have hcancelled := hs.cancelled.trans hc
    obtain ⟨log, hv⟩ := takeTurn_of_taken (@Taken.withheld _ _ _ _ _ _ [] hn (hq' hq) hcancelled)
    exact ⟨_, _, hv, rfl, hs.context, rfl, hs.cancelled, hs.sent, hs.observed⟩
  | abandoned hq ho =>
    have hagree := hagree _ _ hq
    obtain ⟨log, hv⟩ :=
      takeTurn_of_taken (@Taken.abandoned _ _ _ _ _ [] (hsends hq) (hagree.none ho))
    exact ⟨_, _, hv, rfl, hs.context, rfl, hagree.1.symm, by rw [hs.sent], hs.observed⟩
  | refused hq ho =>
    have hagree := hagree _ _ hq
    obtain ⟨log, hv⟩ :=
      takeTurn_of_taken (@Taken.refused _ _ _ _ _ [] _ (hsends hq) (hagree.error ho))
    exact ⟨_, _, hv, rfl, hs.context, rfl, hagree.1.symm, by rw [hs.sent], hs.observed⟩
  | @failed q draws draws' log response v hq ho hv =>
    have hagree := hagree _ _ hq
    obtain ⟨response', ho', hstatus, hhits⟩ := hagree.ok ho
    obtain ⟨hcontext, hnames⟩ := captured_congr hs.context hhits
    obtain ⟨log, hturn⟩ := takeTurn_of_taken
      (@Taken.failed _ _ _ _ _ _ [] _ _ (hsends hq) ho' (by rw [hcontext]; exact hv))
    refine ⟨_, _, hturn, rfl, hcontext, rfl, hagree.1.symm, by rw [hs.sent], ?_⟩
    simp only [List.map_append, List.map_cons, List.map_nil, hs.observed, hnames,
      Position.untimed_result p hstatus]
  | @passed q draws draws' log response vs hq ho hv =>
    have hagree := hagree _ _ hq
    obtain ⟨response', ho', hstatus, hhits⟩ := hagree.ok ho
    obtain ⟨hcontext, hnames⟩ := captured_congr hs.context hhits
    obtain ⟨log, hturn⟩ := takeTurn_of_taken
      (@Taken.passed _ _ _ _ _ _ [] _ _ (hsends hq) ho' (by rw [hcontext]; exact hv))
    rw [hnames, hstatus] at hturn
    refine ⟨_, _, hturn, ?_, hcontext, rfl, hagree.1.symm, by rw [hs.sent], ?_⟩
    · exact congrArg Except.ok (Position.untimed_result p hstatus _ _ _ _ _)
    · simp only [List.map_append, List.map_cons, List.map_nil, hs.observed,
        Position.untimed_result p hstatus]

/-! ## the whole run -/

/-- The request of the first step of a run is the first that the run sends. -/
theorem Course.first_sent {x : Except Error (List StepResult)} {u : RunState} {ts : List Turn}
    {q : Request} {draws : Draws} (hcourse : Course r (p :: ps) s ts x u)
    (hq : Sends r p s q draws) : ts[0]? = some ⟨p, s⟩ ∧ u.sent[s.sent.length]? = some q := by
  cases hcourse with
  | stop hturn =>
    have hsent := (taken_of_takeTurn hturn).sent_eq hq.live
    exact ⟨rfl, by simp [hsent, hq.ready, Except.toOption]⟩
  | step hturn rest =>
    obtain ⟨more, _, hflow⟩ := rest.flow
    have hsent := (taken_of_takeTurn hturn).sent_eq hq.live
    exact ⟨rfl, by simp [hflow.sent, hsent, hq.ready, Except.toOption]⟩

/-- The replies to a run, and to another one that gets to the same steps, agree
in what these steps take of them. -/
def RepliesAgree (r r' : Runner) (first : Nat) (ts : List Turn) (sent : List Request) : Prop :=
  ∀ i t q, ts[i]? = some t → sent[first + i]? = some q →
    (r.exchange (first + i) q).Agree t.position.step.action.extract (r'.exchange (first + i) q)

/-- The first turn of a run comes to the same in another run. -/
theorem Course.first_indistinct {x : Except Error (List StepResult)} {u : RunState} {ts : List Turn}
    {y : Except Error StepResult} (hcourse : Course r (p :: ps) s ts x u)
    (hturn : r.takeTurn p s = (y, t)) (hs : s.Indistinct s')
    (hresolution : r'.resolution = r.resolution)
    (hagree : RepliesAgree r r' s.sent.length ts u.sent) :
    ∃ y' t', r'.takeTurn p s' = (y', t') ∧
      y'.map StepResult.untimed = y.map StepResult.untimed ∧ t.Indistinct t' := by
  refine (taken_of_takeTurn hturn).indistinct hs hresolution fun q draws hq => ?_
  obtain ⟨hfirst, hsent⟩ := hcourse.first_sent hq
  rw [delivery, delivery, hs.sent]
  exact hagree 0 _ q hfirst hsent

theorem map_untimed_cons (x : Except Error (List StepResult)) (result : StepResult) :
    (x.map (result :: ·)).map (List.map StepResult.untimed) =
      (x.map (List.map StepResult.untimed)).map (result.untimed :: ·) := by
  cases x <;> rfl

/-- A run comes to the same as another one whose replies agree with its own. -/
theorem Course.indistinct {x : Except Error (List StepResult)} {u : RunState} {ts : List Turn}
    (hcourse : Course r ps s ts x u) (hs : s.Indistinct s')
    (hresolution : r'.resolution = r.resolution)
    (hagree : RepliesAgree r r' s.sent.length ts u.sent) :
    (r'.runPositions ps s').1.map (List.map StepResult.untimed) =
        x.map (List.map StepResult.untimed) ∧
      u.Indistinct (r'.runPositions ps s').2 := by
  induction hcourse generalizing s' with
  | done => exact ⟨rfl, hs⟩
  | @stop p ps s u e hturn =>
    have hcourse : Course r (p :: ps) s [⟨p, s⟩] (.error e) u := .stop hturn
    obtain ⟨y, t', hturn', hy, hafter⟩ :=
      hcourse.first_indistinct hturn hs hresolution hagree
    cases y with
    | ok result => cases hy
    | error e' =>
      cases hy
      rw [runPositions_cons_error hturn']
      exact ⟨rfl, hafter⟩
  | @step p ps s t u result ts x hturn rest ih =>
    obtain ⟨y, t', hturn', hy, hafter⟩ :=
      (Course.step hturn rest).first_indistinct hturn hs hresolution hagree
    have hcount : t.sent.length = s.sent.length + 1 := by
      cases taken_of_takeTurn hturn with
      | passed hq ho hv => simp
    have hrest : RepliesAgree r r' t.sent.length ts u.sent := by
      intro i turn q hat hsent
      have hnext : t.sent.length + i = s.sent.length + (i + 1) := by omega
      rw [hnext] at hsent ⊢
      exact hagree (i + 1) turn q hat hsent
    cases y with
    | error e => cases hy
    | ok result' =>
      have hresult : result'.untimed = result.untimed := Except.ok.inj hy
      have hstatus : result'.untimed.status = result.untimed.status := by rw [hresult]
      have hstatus : result'.status = result.status := hstatus
      obtain ⟨hx, hend⟩ := ih hafter hrest
      rw [runPositions_cons_ok hturn', proceed_map, hstatus]
      exact ⟨by rw [map_untimed_cons, map_untimed_cons, hx, hresult], hend⟩

/-- The report of a chain, up to the time of its steps, is that of its agenda. -/
theorem untimed_runChain (r : Runner) (c : Chain) (s : RunState) :
    (r.runChain c s).1.map Report.untimed =
      match (r.runPositions c.positions (opened c s)).1.map (List.map StepResult.untimed) with
      | .error e => .error (.chainFailed c.name e)
      | .ok results => .ok ⟨c.name, results⟩ := by
  rw [fst_runChain]
  cases (r.runPositions c.positions (opened c s)).1 <;> rfl

/-! ## runs under two configs -/

/-- Turns that are the same make the same runs. -/
theorem runPositions_congr (h : ∀ p s, r'.takeTurn p s = r.takeTurn p s) (ps : List Position)
    (s : RunState) : r'.runPositions ps s = r.runPositions ps s := by
  induction ps using Position.induction generalizing s with
  | nil => rfl
  | cons p ps ih =>
    rcases hturn : r.takeTurn p s with ⟨e | result, t⟩
    · rw [runPositions_cons_error hturn, runPositions_cons_error ((h p s).trans hturn)]
    · rw [runPositions_cons_ok hturn, runPositions_cons_ok ((h p s).trans hturn), ih]

theorem requestOf_eq (hconfig : r.config.AgreeOnSending r'.config)
    (henv : r'.environment = r.environment) : r'.requestOf = r.requestOf := by
  funext name a s
  simp only [requestOf, henv, hconfig.resolveNamed_eq]

theorem takeTurn_eq (hrequest : r'.requestOf = r.requestOf) (hexchange : r'.exchange = r.exchange)
    (p : Position) (s : RunState) : r'.takeTurn p s = r.takeTurn p s := by
  have hsend : r'.send = r.send := by
    funext name q s
    simp only [send, hexchange]
  have hperform : r'.perform = r.perform := by
    funext depth index a branched s
    simp only [perform, hrequest, hsend]
  rw [takeTurn, takeTurn, hperform]

end

/-- What replies and configs tell a run.  If the replies to two runs agree in
their statuses and failures and in what the steps that receive them capture,
then the runs send the same requests, leave the same variables and end in the
same way, and the same is on record of their steps but for the time they took;
headers, cookies, times and the rest of the bodies have no influence.  The
configs of the two runs may differ in what their requests write back: with the
same replies, the runs are then the same in every respect. -/
theorem runChain_noninterference {r r' : Runner} (hconfig : r.config.AgreeOnSending r'.config)
    (henv : r'.environment = r.environment) :
    (∀ (c : Chain) (ctx : Context) (draws : Draws) (cancelled : Bool),
      let s := RunState.start ctx draws cancelled
      let run := r.runChain c s
      let run' := r'.runChain c s
      RepliesAgree r r' 0 (r.turnsOf c s) run.2.sent →
        run'.2.sent = run.2.sent ∧ run'.2.context = run.2.context ∧ run'.2.draws = run.2.draws ∧
          run'.2.observed.map (fun o => o.1.untimed) = run.2.observed.map (fun o => o.1.untimed) ∧
          run'.1.map Report.untimed = run.1.map Report.untimed) ∧
    (r'.exchange = r.exchange →
      (∀ (c : Chain) (s : RunState), r'.runChain c s = r.runChain c s) ∧
        ∀ (name : String) (s : RunState), r'.runNamed name s = r.runNamed name s) := by
  refine ⟨fun c ctx draws cancelled => ?_, fun hexchange => ?_⟩
  · intro s run run' hagree
    obtain ⟨log, hrun⟩ := r.snd_runChain c s
    obtain ⟨log', hrun'⟩ := r'.snd_runChain c s
    have hbegin : (opened c s).Indistinct (opened c s) := ⟨rfl, rfl, rfl, rfl, rfl⟩
    simp only [run, hrun] at hagree
    obtain ⟨hx, hend⟩ := (r.course c.positions (opened c s)).indistinct hbegin
      (resolution_eq hconfig henv) hagree
    simp only [run, run', hrun, hrun']
    refine ⟨hend.sent, hend.context, hend.draws, hend.observed, ?_⟩
    rw [untimed_runChain, untimed_runChain, hx]
  · have hturn := takeTurn_eq (requestOf_eq hconfig henv) hexchange
    have hchain : ∀ (c : Chain) (s : RunState), r'.runChain c s = r.runChain c s := by
      intro c s
      have hpositions := runPositions_congr hturn c.positions (opened c s)
      rcases h : r.runPositions c.positions (opened c s) with ⟨e | results, u⟩
      · rw [runChain_of_error h, runChain_of_error (hpositions.trans h)]
      · rw [runChain_of_ok h, runChain_of_ok (hpositions.trans h)]
    refine ⟨hchain, fun name s => ?_⟩
    have hload : r'.config.loadChain name = r.config.loadChain name := by
      rw [Config.loadChain, Config.loadChain, Config.chainSteps, Config.chainSteps, hconfig.chains]
    simp only [runNamed, hload, hchain]

/-- A chain that captures the first item of a list and asks for it. -/
def firstItem : Chain :=
  ⟨"list", [.mk ⟨"list", [⟨"first", "$[0]"⟩], [], []⟩ [], .mk ⟨"item", [], [], []⟩ []]⟩

/-- Runs of its requests, the first of which may keep a cookie, against one response. -/
def listRunner (cookie : Option String) (fields : List Field) (body : String) : Runner where
  config := { Config.empty with
    requests := (Dict.empty.insert "item"
      (RequestTemplate.bare "GET" "http://[::1]/\x7b\x7bfirst\x7d\x7d")).insert "list"
        { RequestTemplate.bare "GET" "http://[::1]/" with extractCookie := cookie } }
  environment _ := none
  exchange _ _ := ⟨some (.ok ⟨default, fields, body, 0⟩), false, []⟩

/-- A run against a bare response. -/
def bareList : Runner := listRunner none [] "[true, true]"

/-- A run that would keep a cookie, against a response that sets it and has
another second item. -/
def cookieList : Runner :=
  listRunner (some "session") [⟨"set-cookie", Text.bytes "session=1"⟩] "[true, false]"

/-- A run in which nothing is bound. -/
def unbound : RunState := .start {} ⟨id, id, 0⟩ false

/-- Steps without branches take their turns in order, as far as the run goes. -/
theorem map_position_turns_prefix {r : Runner} {ps : List Position}
    (h : ∀ p ∈ ps, p.step.branches = []) (s : RunState) :
    (r.turns ps s).map Turn.position <+: ps := by
  induction ps generalizing s with
  | nil => simp
  | cons p ps ih =>
    obtain ⟨hp, hps⟩ := List.forall_mem_cons.1 h
    rcases hturn : r.takeTurn p s with ⟨e | result, t⟩
    · rw [turns_cons_error hturn, List.map_singleton]
      exact List.prefix_append [p] ps
    · have hbelow : p.below result.status = [] := by
        rw [Position.below, Step.branchFor, hp]
        rfl
      rw [turns_cons_ok hturn, hbelow, List.nil_append, List.map_cons, List.cons_prefix_cons]
      exact ⟨rfl, ih hps t⟩

theorem agreeOnSending_list : bareList.config.AgreeOnSending cookieList.config := by
  refine ⟨rfl, rfl, rfl, rfl, fun name => ?_, rfl⟩
  simp only [bareList, cookieList, listRunner, Dict.get?_insert]
  split
  · rfl
  · split <;> rfl

theorem repliesAgree_list :
    RepliesAgree bareList cookieList 0 (bareList.turnsOf firstItem unbound)
      (bareList.runChain firstItem unbound).2.sent := by
  have hcaptured : ∀ p ∈ firstItem.positions, ∀ capture ∈ p.step.action.extract,
      capture.taken? "[true, true]" = capture.taken? "[true, false]" := by
    have hfirst : (Capture.mk "first" "$[0]").taken? "[true, true]" =
        (Capture.mk "first" "$[0]").taken? "[true, false]" := by cbv
    simp [firstItem, Chain.positions, Position.ofSteps, Step.action, hfirst]
  have hleaves : ∀ p ∈ firstItem.positions, p.step.branches = [] := by
    simp [firstItem, Chain.positions, Position.ofSteps, Step.branches]
  intro i t q ht _
  have hturns : (bareList.turnsOf firstItem unbound).map Turn.position <+: firstItem.positions :=
    map_position_turns_prefix hleaves _
  have hmem : t.position ∈ firstItem.positions :=
    hturns.subset (List.mem_map_of_mem (List.mem_of_getElem? ht))
  exact ⟨rfl, rfl, hcaptured _ hmem⟩

/-- The two runs ask for the same item and come to the same. -/
theorem runChain_noninterference_list :
    (bareList.runChain firstItem unbound).2.sent.map Request.url =
        ["http://[::1]/", "http://[::1]/true"] ∧
      (cookieList.runChain firstItem unbound).2.sent =
        (bareList.runChain firstItem unbound).2.sent ∧
      (cookieList.runChain firstItem unbound).1.map Report.untimed =
        (bareList.runChain firstItem unbound).1.map Report.untimed := by
  have hreplies := repliesAgree_list
  rw [unbound] at hreplies ⊢
  obtain ⟨hsent, -, -, -, hreport⟩ :=
    (runChain_noninterference agreeOnSending_list rfl).1 firstItem {} ⟨id, id, 0⟩ false hreplies
  exact ⟨by decide +kernel, hsent, hreport⟩

end Runner

end HttpChain
