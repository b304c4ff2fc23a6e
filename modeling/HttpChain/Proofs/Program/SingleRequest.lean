import HttpChain.Proofs.Config.Store
import HttpChain.Proofs.Program.Effects

/-!
# HttpChain.Proofs.Program.SingleRequest

What a single request comes to.  It depends on the files, the config and the template
and not on the name that it has or on what is shown of it (`SendsOnce`): one request
goes out, and where a response arrives, the config that is left is the one with the
response written back (`SendsOnce.leaves`).
-/

namespace HttpChain

namespace Machine

/-- The request that a template comes to without variables. -/
def request? (m : Machine) (c : Config) (t : RequestTemplate) : Option Request :=
  (c.resolve m.environment t {} m.draws).1.toOption.map Prod.fst

/-- What goes out for a template. -/
def outgoing? (m : Machine) (files : FileTree) (c : Config) (t : RequestTemplate) :
    Option Outgoing :=
  (m.request? c t).bind fun r => (r.outgoing files).1.toOption

/-- The response to the first request of a run, if one arrives. -/
def response? (m : Machine) (files : FileTree) (c : Config) (t : RequestTemplate) :
    Option Response :=
  (m.request? c t).bind fun r => (Program.deliver m files 0 r).outcome.bind Except.toOption

/-- A config once the response to the request of a template has been written back. -/
def configAfter (m : Machine) (files : FileTree) (c : Config) (t : RequestTemplate) : Config :=
  match m.response? files c t with
  | none => c
  | some response => (c.writeBack t response).config

end Machine

namespace Runner

/-- A run of a single request sends it, whatever its name is. -/
theorem runTemplate_start (m : Machine) (files : FileTree) (c : Config) (name : String)
    (t : RequestTemplate) :
    (let r := runTemplate ⟨c, m.environment, Program.deliver m files⟩ name t
        (.start {} m.draws false)
    r.1.toOption.map Prod.snd = m.response? files c t ∧
    r.2.sent = (m.request? c t).toList ∧
    r.2.draws = (c.resolve m.environment t {} m.draws).2 ∧
    ∀ e, (c.resolve m.environment t {} m.draws).1 = .error e → r.1 = .error e) := by
  rw [Machine.response?, Machine.request?, runTemplate]
  simp only [RunState.start]
  rcases c.resolve m.environment t {} m.draws with ⟨e | ⟨request, log⟩, draws⟩
  · exact ⟨rfl, rfl, rfl, fun e' h => by cases h; rfl⟩
  · simp only [send, RunState.say, Except.toOption, Option.map_some, Option.bind_some]
    cases (Program.deliver m files 0 request).outcome with
    | none => exact ⟨rfl, rfl, rfl, fun e' h => by cases h⟩
    | some outcome => cases outcome <;> exact ⟨rfl, rfl, rfl, fun e' h => by cases h⟩

end Runner

namespace Program

/-- What a single request comes to: it goes out, and what its response holds is written
back. -/
structure SendsOnce (m : Machine) (file : ConfigFile) (t : RequestTemplate) (s : Session)
    (p : Except Failure Unit × Session) : Prop where
  sent : p.2.sent = s.sent ++ (m.outgoing? s.files file.config t).toList
  attached : p.2.attached =
    s.attached ++ ((m.request? file.config t).bind Request.attachment?).toList
  drawn : p.2.drawn = (file.config.resolve m.environment t {} m.draws).2.taken
  refused : ∀ e, (file.config.resolve m.environment t {} m.draws).1 = .error e →
    p.1 = .error (.error e)
  unanswered : m.response? s.files file.config t = none → p.1.toOption = none ∧ p.2.files = s.files
  answered : ∀ response files, m.response? s.files file.config t = some response →
    (file.config.writeBack t response).keep file.path s.files = .ok files →
      p.1 = .ok () ∧ p.2.files = files

/-- The run of a single request leaves the files alone. -/
theorem comesTo_perform_template (m : Machine) (o : Console.Settings) (c : Config) (name : String)
    (t : RequestTemplate) (s : Session) :
    ∃ s', (perform m o c fun r => r.runTemplate name t).comesTo s =
        ((Runner.runTemplate ⟨c, m.environment, deliver m s.files⟩ name t
          (.start {} m.draws false)).1.mapError .error, s') ∧
      s'.files = s.files ∧
      s'.sent = s.sent ++ (m.outgoing? s.files c t).toList ∧
      s'.attached = s.attached ++ ((m.request? c t).bind Request.attachment?).toList ∧
      s'.drawn = (c.resolve m.environment t {} m.draws).2.taken := by
  obtain ⟨-, hsent, hdraws, -⟩ := Runner.runTemplate_start m s.files c name t
  have hrequest {γ : Type} (f : Request → Option γ) :
      (m.request? c t).toList.filterMap f = ((m.request? c t).bind f).toList := by
    cases m.request? c t with
    | none => rfl
    | some request => cases hf : f request <;> simp [hf]
  refine ⟨_, comesTo_perform m o c _ s, rfl, ?_, ?_, ?_⟩
  · simp only [hsent, hrequest]
    rfl
  · simp only [hsent, hrequest]
  · simp only [hdraws]

theorem comesTo_keep (failure : Error → Failure) (w : WriteBack) (path : String) (s : Session) :
    ∃ s', comesTo (if w.updated then save failure ⟨w.config, path⟩ else pure ()) s =
        (((w.keep path s.files).map fun _ => ()).mapError failure, s') ∧
      s'.sent = s.sent ∧ s'.attached = s.attached ∧ s'.drawn = s.drawn ∧
      ∀ files, w.keep path s.files = .ok files → s'.files = files := by
  rw [WriteBack.keep]
  split
  · rw [comesTo_save, ConfigFile.save]
    cases ConfigFile.writeAt s.files w.config path with
    | error e => exact ⟨_, rfl, rfl, rfl, rfl, fun files h => by cases h⟩
    | ok files => exact ⟨_, rfl, rfl, rfl, rfl, fun files' h => by cases h; rfl⟩
  · exact ⟨s, rfl, rfl, rfl, rfl, fun files h => by cases h; rfl⟩

theorem sendsOnce_runSingle (m : Machine) (o : Console.Settings) (file : ConfigFile)
    (name : String) (t : RequestTemplate) (s : Session) :
    SendsOnce m file t s ((runSingle m o file name t).comesTo s) := by
  obtain ⟨hresponse, -, -, hrefused⟩ := Runner.runTemplate_start m s.files file.config name t
  obtain ⟨s', hperform, hfiles, hsent, hattached, hdrawn⟩ :=
    comesTo_perform_template m o file.config name t s
  rw [runSingle]
  cases hresult : (Runner.runTemplate ⟨file.config, m.environment, deliver m s.files⟩ name t
      (.start {} m.draws false)).1 with
  | error e =>
    rw [hresult] at hperform hresponse hrefused
    rw [comesTo_bind_of_error hperform]
    exact ⟨hsent, hattached, hdrawn, fun e' h => by cases hrefused e' h; rfl,
      fun _ => ⟨rfl, hfiles⟩, fun response files h => by rw [← hresponse] at h; cases h⟩
  | ok exchange =>
    obtain ⟨request, response⟩ := exchange
    rw [hresult] at hperform hresponse hrefused
    rw [comesTo_bind_of_ok hperform]
    dsimp only
    rw [comesTo_bind_of_ok (comesTo_print _ _), comesTo_bind_of_ok (comesTo_noteEvents _ _)]
    obtain ⟨s'', hkeep, hsent'', hattached'', hdrawn'', hfiles''⟩ :=
      comesTo_keep (.updating file.path) (file.config.writeBack t response) file.path
        { s' with
          output := s'.output ++ o.exchange request response
          notes := s'.notes ++ (file.config.writeBack t response).log.map .event }
    dsimp only at hfiles''
    rw [hkeep]
    refine ⟨hsent''.trans hsent, hattached''.trans hattached, hdrawn''.trans hdrawn,
      fun e h => (nomatch hrefused e h), fun h => (nomatch hresponse.trans h), ?_⟩
    intro response' files hresponse' hkept
    obtain rfl : response = response' := Option.some.inj (hresponse.trans hresponse')
    rw [← hfiles] at hkept
    exact ⟨by rw [hkept]; rfl, hfiles'' files hkept⟩

/-- The files that a machine begins with do not matter to a session of its own. -/
theorem SendsOnce.of_files {m : Machine} {files : FileTree} {file : ConfigFile}
    {t : RequestTemplate} {s : Session} {p : Except Failure Unit × Session}
    (h : SendsOnce { m with files } file t s p) : SendsOnce m file t s p :=
  ⟨h.sent, h.attached, h.drawn, h.refused, h.unanswered, h.answered⟩

/-- Where the config of a file is, the one with the response written back is left. -/
theorem SendsOnce.leaves {m : Machine} {file : ConfigFile} {t : RequestTemplate} {s : Session}
    {p : Except Failure Unit × Session} (h : SendsOnce m file t s p)
    (hread : ConfigFile.readAt s.files file.path = .ok file.config) :
    p.1.toOption = (m.response? s.files file.config t).map (fun _ => ()) ∧
      ConfigFile.readAt p.2.files file.path = .ok (m.configAfter s.files file.config t) := by
  rw [Machine.configAfter]
  cases hresponse : m.response? s.files file.config t with
  | none =>
    obtain ⟨hfailed, hfiles⟩ := h.unanswered hresponse
    exact ⟨hfailed, hfiles ▸ hread⟩
  | some response =>
    obtain ⟨files, hkept, hleft⟩ := Config.exists_keep hread t response
    obtain ⟨hdone, hfiles⟩ := h.answered response files hresponse hkept
    rw [hdone, hfiles]
    exact ⟨rfl, hleft⟩

end Program

end HttpChain
