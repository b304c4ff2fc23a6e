import HttpChain.Program

/-!
# HttpChain.Proofs.Program.Effects

What the parts of the program do, one after the other.  Each effect comes to a
session that is the one before it with some of its records changed (`comesTo_save`,
`comesTo_load`, `comesTo_perform`), and a part that follows another goes on from
there, unless the first one failed (`comesTo_bind`).
-/

namespace HttpChain

namespace Program

variable {α β : Type}

/-- What a part of the program comes to from a session on. -/
def comesTo (p : Program α) (s : Session) : Except Failure α × Session :=
  StateT.run (ExceptT.run p) s

/-- A run of the program is what its invocation comes to, from the files of the machine on.
-/
theorem run_eq (m : Machine) (i : CommandLine.Invocation) :
    run m i = (invoke m i).comesTo (.start m.files) := rfl

/-! ## parts in a row -/

@[simp] theorem comesTo_pure (a : α) (s : Session) : comesTo (pure a) s = (.ok a, s) := rfl

@[simp] theorem comesTo_get (s : Session) : comesTo get s = (.ok s, s) := rfl

@[simp] theorem comesTo_modify (f : Session → Session) (s : Session) :
    comesTo (modify f) s = (.ok (), f s) := rfl

/-- One part of a program after the other; a failure of the first one ends both. -/
theorem comesTo_bind (p : Program α) (f : α → Program β) (s : Session) :
    comesTo (p >>= f) s =
      match p.comesTo s with
      | (.ok a, s') => (f a).comesTo s'
      | (.error e, s') => (.error e, s') := by
  change (match p.comesTo s with | (r, s') => (ExceptT.bindCont f r) s') = _
  rcases p.comesTo s with ⟨_ | _, _⟩ <;> rfl

/-- What follows a part that does not fail. -/
theorem comesTo_bind_of_ok {p : Program α} {a : α} {s s' : Session}
    (h : p.comesTo s = (.ok a, s')) (f : α → Program β) :
    comesTo (p >>= f) s = (f a).comesTo s' := by rw [comesTo_bind, h]

/-- Nothing follows a part that fails. -/
theorem comesTo_bind_of_error {p : Program α} {e : Failure} {s s' : Session}
    (h : p.comesTo s = (.error e, s')) (f : α → Program β) :
    comesTo (p >>= f) s = (.error e, s') := by rw [comesTo_bind, h]

/-- A result turns into a failure of the program if it is an error. -/
theorem comesTo_orFail (failure : Error → Failure) (r : Except Error α) (s : Session) :
    comesTo (orFail failure r) s = (r.mapError failure, s) := by
  cases r <;> rfl

/-! ## saying something -/

/-- To print adds to the output and to nothing else. -/
@[simp] theorem comesTo_print (text : String) (s : Session) :
    comesTo (print text) s = (.ok (), { s with output := s.output ++ text }) := rfl

/-- A note is kept apart from the output. -/
@[simp] theorem comesTo_noteLine (text : String) (s : Session) :
    comesTo (noteLine text) s = (.ok (), { s with notes := s.notes ++ [.line text] }) := rfl

/-- Events are kept with the notes, in order. -/
@[simp] theorem comesTo_noteEvents (events : List Log.Event) (s : Session) :
    comesTo (noteEvents events) s = (.ok (), { s with notes := s.notes ++ events.map .event }) := rfl

/-- Texts are printed in a row. -/
theorem comesTo_forM_print (text : α → String) (as : List α) (s : Session) :
    comesTo (as.forM fun a => print (text a)) s =
      (.ok (), { s with output := s.output ++ String.join (as.map text) }) := by
  induction as generalizing s with
  | nil => simp [List.forM, String.join]
  | cons a as ih =>
    change comesTo (print (text a) >>= fun _ => as.forM fun a => print (text a)) s = _
    rw [comesTo_bind_of_ok (comesTo_print _ _), ih, List.map_cons, String.join_cons,
      String.append_assoc]

/-! ## files and the network -/

/-- A config that cannot be saved leaves the files as they were. -/
theorem comesTo_save (failure : Error → Failure) (file : ConfigFile) (s : Session) :
    comesTo (save failure file) s =
      match file.save s.files with
      | .ok files => (.ok (), { s with
          files, notes := s.notes ++ [.event (ConfigFile.savedEvent file.path)] })
      | .error e => (.error (failure e), s) := by
  rw [save, comesTo_bind, comesTo_get]
  simp only [comesTo_bind, comesTo_orFail]
  cases file.save s.files <;> rfl

/-- To load a config reads files and changes none; which one was used is noted. -/
theorem comesTo_load (path bundle : Option String) (s : Session) :
    comesTo (load path bundle) s =
      ((ConfigFile.load s.files path bundle).1.mapError .error, { s with
        notes := s.notes ++ (ConfigFile.load s.files path bundle).2.map .event }) := by
  rw [load, comesTo_bind, comesTo_get]
  simp only [comesTo_bind, comesTo_orFail, comesTo_noteEvents]

/-- A run sends its requests and draws its values, whether it fails or not. -/
theorem comesTo_perform (m : Machine) (o : Console.Settings) (c : Config)
    (run : Runner → RunState → Except Error α × RunState) (s : Session) :
    comesTo (perform m o c run) s =
      (let r := run ⟨c, m.environment, deliver m s.files⟩ (.start {} m.draws false)
      (r.1.mapError .error, { s with
        output := s.output ++
          String.join (r.2.observed.map fun seen => o.step seen.1 seen.2 ++ "\n")
        notes := s.notes ++ r.2.log.map .event
        attached := s.attached ++ r.2.sent.filterMap Request.attachment?
        sent := s.sent ++ r.2.sent.filterMap fun q => (q.outgoing s.files).1.toOption
        drawn := r.2.draws.taken
        patience := patience c })) := by
  rw [perform, comesTo_bind, comesTo_get]
  rcases hrun : run ⟨c, m.environment, deliver m s.files⟩ (.start {} m.draws false) with ⟨result, r⟩
  simp only [hrun, comesTo_bind, comesTo_noteEvents, noteRun, comesTo_modify]
  rw [comesTo_forM_print fun seen : StepResult × Response => o.step seen.1 seen.2 ++ "\n"]
  simp only [comesTo_orFail]

end Program

end HttpChain
