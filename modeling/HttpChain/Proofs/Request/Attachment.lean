import HttpChain.Proofs.Request.Resolution
import HttpChain.Proofs.Variable.Front

/-!
# HttpChain.Proofs.Request.Attachment

When a request carries a file.  The at sign that names a file is looked for after
variables have been put into the body.  For a template that does not name a file
itself, this is when a variable puts an at sign in front of its body and more than
blanks follow there (`resolve_file_iff`).
-/

namespace HttpChain

open Placeholder

/-- A text names a file by an at sign and, behind it, more than blanks. -/
theorem Body.ofText_eq_file_iff {text path : String} :
    Body.ofText text = .file path ↔ text.toList.head? = some '@' ∧
      Text.trim text.toList.tail ≠ [] ∧ path = String.ofList (Text.trim text.toList.tail) := by
  unfold ofText
  split
  · next rest htext =>
    rw [htext, List.head?_cons, List.tail_cons]
    split
    · next hblank => simp [hblank]
    · next hblank => simp [hblank, eq_comm]
  · next hother =>
    constructor
    · intro h
      cases h
    · rintro ⟨hhead, -⟩
      obtain ⟨rest, hrest⟩ := List.head?_eq_some_iff.1 hhead
      exact absurd hrest (hother rest)

/-- Whatever names no file is a text. -/
theorem Body.ofText_eq_text {text : String} (h : ∀ path, Body.ofText text ≠ .file path) :
    Body.ofText text = .text text := by
  unfold ofText at h ⊢
  split
  · next rest htext =>
    split
    · rfl
    · next hblank => simp [htext, hblank] at h
  · rfl

/-- The body of a template with values in the places of its dynamic tokens. -/
def RequestTemplate.expandedBody (t : RequestTemplate) (ctx : Context) (draws : Draws) :
    List Char :=
  (expandDynamic t.body.toList (t.bodyDraws ctx draws)).1

/-- A body begins with an at sign if the template has one there, or a variable puts
one there. -/
theorem RequestTemplate.head?_bodyText (t : RequestTemplate) (ctx : Context) (draws : Draws) :
    (t.bodyText ctx draws).toList.head? = some '@' ↔
      t.body.toList.head? = some '@' ∨ PutInFront ctx '@' (t.expandedBody ctx draws) := by
  rw [bodyText, substitute_eq, String.toList_ofList, head?_expandNames ctx (by decide), expandedBody,
    head?_expandDynamic (by decide) (by decide)]

/-- The request of a template whose body does not begin with an at sign carries a
file if, and only if, a variable puts an at sign in front of the body and more than
blanks stand behind it; this is then the path of the file.  Otherwise the request
carries nothing or the text that the body has become. -/
theorem resolve_file_iff (c : Config) (env : Environment) (t : RequestTemplate) (ctx : Context)
    (draws : Draws) {r : Request} {log : List Log.Event}
    (h : (c.resolve env t ctx draws).1 = .ok (r, log)) (hplain : t.body.toList.head? ≠ some '@') :
    (∀ path, r.body = some (.file path) ↔
      PutInFront ctx '@' (t.expandedBody ctx draws) ∧
        Text.trim (t.bodyText ctx draws).toList.tail ≠ [] ∧
        path = String.ofList (Text.trim (t.bodyText ctx draws).toList.tail)) ∧
    ((∀ path, r.body ≠ some (.file path)) →
      r.body = none ∨ r.body = some (.text (t.bodyText ctx draws))) := by
  obtain ⟨method, -, -, -, rfl⟩ := Config.of_resolve h
  rw [Config.body_requestOf, Body.ofText?]
  have hhead := t.head?_bodyText ctx draws
  rw [or_iff_right hplain] at hhead
  split
  · next hempty =>
    refine ⟨fun path => ?_, fun _ => .inl rfl⟩
    rw [← hhead, hempty]
    simp
  · refine ⟨fun path => ?_, fun hnone => .inr ?_⟩
    · rw [Option.some.injEq, Body.ofText_eq_file_iff, hhead]
    · rw [Body.ofText_eq_text fun path hpath => hnone path (congrArg some hpath)]

/-- A template whose body is a variable. -/
def postNote : RequestTemplate :=
  { RequestTemplate.bare "POST" "http://[::1]/notes" with body := "\x7b\x7bnote\x7d\x7d" }

/-- A value that begins with an at sign makes a file of the body. -/
theorem resolve_file_of_value :
    ∃ r, (Config.empty.resolve (fun _ => none) postNote
        (Dict.empty.insert "note" (.string "@/etc/passwd")) ⟨id, id, 0⟩).1 = .ok (r, []) ∧
      r.body = some (.file "/etc/passwd") := by
  refine ⟨_, rfl, ?_⟩
  have hcarries := (resolve_file_iff Config.empty (fun _ => none) postNote
    (Dict.empty.insert "note" (.string "@/etc/passwd")) ⟨id, id, 0⟩ rfl (by decide)).1
  have hall : "note".toList.all isNameChar = true := by decide
  have hname : IsName "note" :=
    ⟨by decide, fun c hc => isNameChar_iff.1 (List.all_eq_true.1 hall c hc), by decide⟩
  have hhead : "@/etc/passwd".toList.head? = some '@' := rfl
  refine (hcarries _).2 ⟨?_, by decide, rfl⟩
  exact PutInFront.value hname rfl hhead

/-- So the template alone does not decide whether a file is sent. -/
theorem not_resolve_text : ¬ ∀ (c : Config) (env : Environment) (t : RequestTemplate)
    (ctx : Context) (draws : Draws) (r : Request) (log : List Log.Event),
    t.body.toList.head? ≠ some '@' → (c.resolve env t ctx draws).1 = .ok (r, log) →
      r.body = none ∨ r.body = some (.text (t.bodyText ctx draws)) := by
  intro h
  have hnote := h Config.empty (fun _ => none) postNote
    (Dict.empty.insert "note" (.string "@/etc/passwd")) ⟨id, id, 0⟩ _ _ (by decide) rfl
  rcases hnote with hnote | hnote <;> cases hnote

end HttpChain
