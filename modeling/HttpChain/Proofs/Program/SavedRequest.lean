import HttpChain.Proofs.Program.SingleRequest
import HttpChain.Proofs.Request.Resolution
import HttpChain.Proofs.Writes

/-!
# HttpChain.Proofs.Program.SavedRequest

Requests that are saved.  A command that sends a request and saves it under a name
writes the config first, and goes on as a single request (`run_request_of_saved`).  As
running the request by its name is a single request with the same config, it replays
what the command did (`run_replays`).
-/

namespace HttpChain

namespace Program

/-! ## saving -/

/-- A session in which nothing has been sent, with its files. -/
structure Fresh (files : FileTree) (s : Session) : Prop where
  files : s.files = files
  sent : s.sent = []
  attached : s.attached = []

theorem exists_fresh_of_load {files : FileTree} {path bundle : Option String} {file : ConfigFile}
    (h : (ConfigFile.load files path bundle).1 = .ok file) (next : ConfigFile → Program Unit) :
    ∃ s, Fresh files s ∧ comesTo (load path bundle >>= next) (.start files) =
      (next file).comesTo s := by
  have hloaded := comesTo_load path bundle (.start files)
  rw [Session.start, h] at hloaded
  exact ⟨_, ⟨rfl, rfl, rfl⟩, comesTo_bind_of_ok hloaded next⟩

/-- A saved request is run by its name as a single request. -/
theorem run_saved {m : Machine} {j : CommandLine.Invocation} {t : RequestTemplate} {name : String}
    {file : ConfigFile} (hcommand : j.command = .run name)
    (hload : (ConfigFile.load m.files j.config j.bundle).1 = .ok file)
    (hchain : file.config.hasChain name = false) (hrequest : file.config.request name = .ok t) :
    ∃ s, Fresh m.files s ∧
      run m j = (runSingle m ⟨m.colors, j.verbose⟩ file name t).comesTo s := by
  obtain ⟨s, hfresh, hrun⟩ := exists_fresh_of_load hload (runNamed m ⟨m.colors, j.verbose⟩ · name)
  refine ⟨s, hfresh, ?_⟩
  rw [run_eq, invoke, hcommand]
  dsimp only
  rw [hrun, runNamed, hchain, hrequest]
  rfl

section Saving

variable {m : Machine} {i : CommandLine.Invocation} {t : RequestTemplate} {name : String}
  {file : ConfigFile} (hcommand : i.command = .request t (some name))
  (hload : (ConfigFile.load m.files i.config i.bundle).1 = .ok file)
include hcommand hload

theorem run_request : ∃ s, Fresh m.files s ∧
    run m i = (request m ⟨m.colors, i.verbose⟩ file t (some name)).comesTo s := by
  obtain ⟨s, hfresh, hrun⟩ :=
    exists_fresh_of_load hload (request m ⟨m.colors, i.verbose⟩ · t (some name))
  refine ⟨s, hfresh, ?_⟩
  rw [run_eq, invoke, hcommand]
  exact hrun

/-- Once the config has been saved, the command goes on as a single request. -/
theorem run_request_of_saved {files : FileTree}
    (hwrite : ConfigFile.writeAt m.files (file.config.saveRequest name t) file.path = .ok files) :
    ∃ s, Fresh files s ∧
      run m i = (runSingle m ⟨m.colors, i.verbose⟩ ⟨file.config.saveRequest name t, file.path⟩
        t.url t).comesTo s := by
  obtain ⟨s, hfresh, hrun⟩ := run_request hcommand hload
  rw [hrun, request, comesTo_bind, comesTo_save, ConfigFile.save, hfresh.files]
  dsimp only
  rw [hwrite]
  dsimp only
  rw [comesTo_bind_of_ok (comesTo_noteLine _ _)]
  refine ⟨_, ?_, rfl⟩
  exact ⟨rfl, hfresh.sent, hfresh.attached⟩

/-- Where the config cannot be saved, nothing is sent. -/
theorem run_request_of_not_saved {e : Error}
    (hwrite : ConfigFile.writeAt m.files (file.config.saveRequest name t) file.path = .error e) :
    (run m i).1 = .error (.savingRequest name e) ∧ (run m i).2.sent = [] := by
  obtain ⟨s, hfresh, hrun⟩ := run_request hcommand hload
  rw [hrun, request, comesTo_bind, comesTo_save, ConfigFile.save, hfresh.files]
  dsimp only
  rw [hwrite]
  exact ⟨rfl, hfresh.sent⟩

end Saving

end Program

/-! ## replaying -/

/-- Saved requests are not looked at when a template is resolved. -/
theorem Config.resolve_saveRequest (c : Config) (name : String) (saved : RequestTemplate) :
    (c.saveRequest name saved).resolve = c.resolve := rfl

/-- What two runs of the program have in common that send the same: what goes out, the
files that are asked for, the values drawn, whether they succeed, and the config that
each of them leaves at its path. -/
structure Replays (before after : Except Failure Unit × Session) (path path' : String) :
    Prop where
  sent : after.2.sent = before.2.sent
  attached : after.2.attached = before.2.attached
  drawn : after.2.drawn = before.2.drawn
  succeeds : after.1.toOption = before.1.toOption
  config : ∃ c, ConfigFile.readAt before.2.files path = .ok c ∧
    ConfigFile.readAt after.2.files path' = .ok c

theorem Replays.of_sendsOnce {m : Machine} {files : FileTree} {c : Config} {t : RequestTemplate}
    {path path' : String} {s s' : Session} {p p' : Except Failure Unit × Session}
    (h : Program.SendsOnce m ⟨c, path⟩ t s p) (h' : Program.SendsOnce m ⟨c, path'⟩ t s' p')
    (hfresh : Program.Fresh files s) (hfresh' : Program.Fresh files s')
    (hread : ConfigFile.readAt files path = .ok c)
    (hread' : ConfigFile.readAt files path' = .ok c) : Replays p p' path path' := by
  obtain ⟨rfl, hsent, hattached⟩ := hfresh
  obtain ⟨hfiles, hsent', hattached'⟩ := hfresh'
  obtain ⟨hdone, hleft⟩ := h.leaves hread
  obtain ⟨hdone', hleft'⟩ := h'.leaves (hfiles.symm ▸ hread')
  rw [hfiles] at hdone' hleft'
  exact {
    sent := by rw [h.sent, h'.sent, hsent, hsent', hfiles]
    attached := by rw [h.attached, h'.attached, hattached, hattached']
    drawn := by rw [h.drawn, h'.drawn]
    succeeds := by rw [hdone, hdone']
    config := ⟨_, hleft, hleft'⟩ }

/-- A request that is saved when it is sent replays.  The command first saves the config
with the request in it, under its name and in place of what had that name, and fails
without sending anything where that cannot be done; where the config comes from a file,
it can.  Then it sends what the template comes to, and writes back what the response
holds.  To run the request by its name on the saved config, wherever that is loaded
from, sends the same and leaves the same config, as long as there is no chain of that
name. -/
theorem run_replays (m : Machine) (i : CommandLine.Invocation) (t : RequestTemplate)
    (name : String) (file : ConfigFile) (hcommand : i.command = .request t (some name))
    (hload : (ConfigFile.load m.files i.config i.bundle).1 = .ok file)
    (hchain : file.config.hasChain name = false) :
    (∀ method url given, t = CommandLine.template method url given →
      ∀ key, t.extractToConfig.get? key = lastWrite? (fun k => decide (k = key))
        ((given.values .extractToConfig).filterMap CommandLine.keyValue?)) ∧
    (∀ path, ConfigFile.source? m.files i.config i.bundle = some path →
      ∃ files, ConfigFile.writeAt m.files (file.config.saveRequest name t) file.path = .ok files ∧
        (ConfigFile.load files i.config i.bundle).1 =
          .ok ⟨file.config.saveRequest name t, file.path⟩) ∧
    (∀ e, ConfigFile.writeAt m.files (file.config.saveRequest name t) file.path = .error e →
      (Program.run m i).1 = .error (.savingRequest name e) ∧ (Program.run m i).2.sent = []) ∧
    ∀ files, ConfigFile.writeAt m.files (file.config.saveRequest name t) file.path = .ok files →
      ConfigFile.readAt files file.path = .ok (file.config.saveRequest name t) ∧
      { file.config.saveRequest name t with requests := file.config.requests } = file.config ∧
      (∀ other, (file.config.saveRequest name t).requests.get? other =
        if name = other then some t else file.config.requests.get? other) ∧
      (∀ e, (file.config.resolve m.environment t {} m.draws).1 = .error e →
        (Program.run m i).1 = .error (.error e) ∧ (Program.run m i).2.sent = []) ∧
      (∀ r log, (file.config.resolve m.environment t {} m.draws).1 = .ok (r, log) →
        (Program.run m i).2.sent = (r.outgoing files).1.toOption.toList) ∧
      ConfigFile.readAt (Program.run m i).2.files file.path =
        .ok (m.configAfter files (file.config.saveRequest name t) t) ∧
      ∀ (j : CommandLine.Invocation) (path : String), j.command = .run name →
        (ConfigFile.load files j.config j.bundle).1 =
          .ok ⟨file.config.saveRequest name t, path⟩ →
        Replays (Program.run m i) (Program.run { m with files } j) file.path path := by
  have hordered : (file.config.saveRequest name t).Ordered := Config.ordered_of_load hload
  refine ⟨?_, ?_, ?_, ?_⟩
  · rintro method url given rfl key
    exact (Dict.get?_insertAll _ _ key).trans Option.or_none
  · exact fun path hsource => ConfigFile.load_of_writeAt hsource hload hordered
  · exact fun e hwrite => Program.run_request_of_not_saved hcommand hload hwrite
  · intro files hwrite
    have hsaved := ConfigFile.readAt_of_writeAt hordered hwrite
    obtain ⟨s, hfresh, hrun⟩ := Program.run_request_of_saved hcommand hload hwrite
    have hsends := Program.sendsOnce_runSingle m ⟨m.colors, i.verbose⟩
      ⟨file.config.saveRequest name t, file.path⟩ t.url t s
    rw [← hrun] at hsends
    have hsent : (Program.run m i).2.sent =
        (m.outgoing? files (file.config.saveRequest name t) t).toList := by
      rw [hsends.sent, hfresh.sent, hfresh.files, List.nil_append]
    refine ⟨hsaved, rfl, fun other => Dict.get?_insert _ _ other t, fun e hresolve => ?_,
      fun r log hresolve => ?_, ?_, fun j path hj hloaded => ?_⟩
    · rw [← Config.resolve_saveRequest _ name t] at hresolve
      refine ⟨hsends.refused e hresolve, ?_⟩
      rw [hsent, Machine.outgoing?, Machine.request?, hresolve]
      rfl
    · rw [← Config.resolve_saveRequest _ name t] at hresolve
      rw [hsent, Machine.outgoing?, Machine.request?, hresolve]
      rfl
    · obtain ⟨-, hleft⟩ := hsends.leaves (hfresh.files.symm ▸ hsaved)
      rw [hfresh.files] at hleft
      exact hleft
    · have hrequest : (file.config.saveRequest name t).request name = .ok t := by
        have hheld : (file.config.saveRequest name t).requests.get? name = some t :=
          (Dict.get?_insert _ _ _ _).trans (if_pos rfl)
        rw [Config.request, hheld]
        rfl
      obtain ⟨s', hfresh', hrun'⟩ :=
        Program.run_saved (m := { m with files }) hj hloaded hchain hrequest
      have hsends' := Program.sendsOnce_runSingle { m with files } ⟨m.colors, j.verbose⟩
        ⟨file.config.saveRequest name t, path⟩ name t s'
      rw [← hrun'] at hsends'
      have hne : file.config.saveRequest name t ≠ Config.empty := fun hempty => by
        rw [hempty] at hrequest
        cases hrequest
      have hread := ConfigFile.readAt_of_load_nonempty hloaded hne
      exact .of_sendsOnce hsends hsends'.of_files hfresh hfresh' hsaved hread

/-- A machine with a config in a file, and no one to answer it. -/
def loneMachine : Machine where
  files := Config.bareTree.set ["nested.toml"] (.file (Text.bytes Config.nested.write))
  environment _ := none
  keys := none
  network _ _ := .unanswered
  draws := ⟨id, id, 0⟩
  colors := false

/-- Options of a request that give a key twice. -/
def listOptions : CommandLine.State :=
  { CommandLine.State.start with
    given := [(.noHeaders, ""), (.extractToConfig, "base_url=$.a"),
      (.extractToConfig, "base_url=$.b")] }

/-- A request that is sent and saved. -/
def saveList : CommandLine.Invocation :=
  ⟨some "nested.toml", none, false,
    .request (CommandLine.template .get "http://[::1]/" listOptions) (some "list")⟩

/-- It is sent when it is saved, and again when it is run. -/
theorem run_replays_list : ∃ files,
    ConfigFile.readAt files "nested.toml" = .ok (Config.nested.saveRequest "list"
      (CommandLine.template .get "http://[::1]/" listOptions)) ∧
    (CommandLine.template .get "http://[::1]/" listOptions).extractToConfig.get? "base_url" =
      some "$.b" ∧
    (Program.run loneMachine saveList).2.sent.length = 1 ∧
    Replays (Program.run loneMachine saveList)
      (Program.run { loneMachine with files } { saveList with command := .run "list" })
      "nested.toml" "nested.toml" := by
  have hread : ConfigFile.readAt loneMachine.files "nested.toml" = .ok Config.nested :=
    ConfigFile.readAt_of_writeAt (t := Config.bareTree) Config.ordered_nested rfl
  have hload : (ConfigFile.load loneMachine.files saveList.config saveList.bundle).1 =
      .ok ⟨Config.nested, "nested.toml"⟩ := by
    rw [ConfigFile.load_fst]
    change (ConfigFile.readAt loneMachine.files "nested.toml").map _ = _
    rw [hread]
    rfl
  obtain ⟨hkeys, hfile, -, hsaved⟩ := run_replays loneMachine saveList _ "list" _ rfl hload rfl
  obtain ⟨files, hwrite, hreload⟩ := hfile "nested.toml" rfl
  obtain ⟨hreadSaved, -, -, -, hsent, -, hreplays⟩ := hsaved files hwrite
  have hresolve := Config.nested.resolve_of_loopback loneMachine.environment
    (t := CommandLine.template .get "http://[::1]/" listOptions) rfl rfl {} loneMachine.draws
  refine ⟨files, hreadSaved, ?_, ?_, hreplays _ _ rfl hreload⟩
  · rw [hkeys _ _ _ rfl]
    decide +kernel
  · rw [hsent _ _ hresolve]
    rfl

end HttpChain
