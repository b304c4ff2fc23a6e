import HttpChain.Proofs.Request.Resolution
import HttpChain.Proofs.Run.Turn
import HttpChain.Proofs.Writes

/-!
# HttpChain.Proofs.Run.Locals

The variables of a step are put on top of those of the run all at once.  Each template is
substituted in the variables of the run, also where it has the name of another step
variable in it, and the last template of a name decides (`get?_withLocals`).  The order of
the templates is left with two parts to play: templates of one name override each other,
and values are drawn from the left.  Without either it plays none (`withLocals_perm`).
-/

namespace HttpChain

theorem substitute_snd (enc : Encoding) (ctx : Context) (text : String) (draws : Draws) :
    (substitute enc ctx text draws).2 =
      draws.skip (DynamicToken.ahead text.toList text.toList.length) := by
  obtain ⟨out, -, hpass⟩ := Placeholder.exists_rewriting_expandDynamic text.toList draws
  rw [substitute_eq, hpass]

/-! ## lists of step variables -/

namespace Locals

/-- The number of dynamic tokens in the templates of step variables. -/
def tokens : List (String × String) → Nat
  | [] => 0
  | (_, template) :: rest =>
    DynamicToken.ahead template.toList template.toList.length + tokens rest

/-- No dynamic token stands in any template of step variables. -/
def Static (locals : List (String × String)) : Prop :=
  ∀ l ∈ locals, ∀ token i, ¬ DynamicToken.StandsAt token l.2.toList i

/-- A listed name has a last template. -/
theorem exists_last_of_mem {locals : List (String × String)} {name : String}
    (h : name ∈ locals.map Prod.fst) :
    ∃ before template after, locals = before ++ (name, template) :: after ∧
      name ∉ after.map Prod.fst := by
  have hlast : lastWrite? (fun k => decide (k = name)) locals ≠ none := by
    rw [Ne, lastWrite?_eq_none_iff_not_mem, not_not]
    exact h
  obtain ⟨template, htemplate⟩ := Option.ne_none_iff_exists'.1 hlast
  obtain ⟨before, key, after, hlocals, hkey, hafter⟩ := lastWrite?_eq_some_iff.1 htemplate
  have hname : key = name := by simpa using hkey
  rw [hname] at hlocals
  exact ⟨before, template, after, hlocals,
    lastWrite?_eq_none_iff_not_mem.1 (lastWrite?_eq_none_iff.2 hafter)⟩

end Locals

namespace Context

open Locals

variable {ctx : Context} {locals : List (String × String)} {draws : Draws}

/-! ## the values of step variables -/

/-- Each template is substituted in one and the same context, and draws behind the ones
ahead of it. -/
theorem localValues_cons (name template : String) :
    (ctx.localValues ((name, template) :: locals) draws).1 =
      (name, .string (substitute .plain ctx template draws).1) :: (ctx.localValues locals
        (draws.skip (DynamicToken.ahead template.toList template.toList.length))).1 := by
  rw [localValues, Drawing.bind_apply, Drawing.bind_apply, Drawing.pure_apply, substitute_snd]

theorem localValues_append (before after : List (String × String)) :
    (ctx.localValues (before ++ after) draws).1 = (ctx.localValues before draws).1 ++
      (ctx.localValues after (draws.skip (tokens before))).1 := by
  induction before generalizing draws with
  | nil => rfl
  | cons l before ih =>
    rw [List.cons_append, localValues_cons, localValues_cons, ih, Draws.skip_skip, tokens,
      List.cons_append]

theorem map_fst_localValues :
    (ctx.localValues locals draws).1.map Prod.fst = locals.map Prod.fst := by
  induction locals generalizing draws with
  | nil => rfl
  | cons l locals ih => rw [localValues_cons, List.map_cons, List.map_cons, ih]

/-- Nothing is written to a name that is not listed. -/
theorem lastWrite?_localValues_eq_none_iff {name : String} :
    lastWrite? (fun k => decide (k = name)) (ctx.localValues locals draws).1 = none ↔
      name ∉ locals.map Prod.fst := by
  rw [lastWrite?_eq_none_iff_not_mem, map_fst_localValues]

/-- The last template of a name decides. -/
theorem lastWrite?_localValues {before after : List (String × String)} {name template : String}
    (h : name ∉ after.map Prod.fst) :
    lastWrite? (fun k => decide (k = name))
        (ctx.localValues (before ++ (name, template) :: after) draws).1 =
      some (.string (substitute .plain ctx template (draws.skip (tokens before))).1) := by
  rw [localValues_append, lastWrite?_append, localValues_cons, lastWrite?,
    lastWrite?_localValues_eq_none_iff.2 h]
  simp

/-! ## the context of a step -/

theorem withLocals_fst :
    (ctx.withLocals locals draws).1 = ctx.insertAll (ctx.localValues locals draws).1 := rfl

theorem get?_withLocals_of_last {before after : List (String × String)} {name template : String}
    (h : name ∉ after.map Prod.fst) :
    (ctx.withLocals (before ++ (name, template) :: after) draws).1.get? name =
      some (.string (substitute .plain ctx template (draws.skip (tokens before))).1) := by
  rw [withLocals_fst, Dict.get?_insertAll, lastWrite?_localValues h, Option.some_or]

theorem get?_withLocals_of_not_mem {name : String} (h : name ∉ locals.map Prod.fst) :
    (ctx.withLocals locals draws).1.get? name = ctx.get? name := by
  rw [withLocals_fst, Dict.get?_insertAll, lastWrite?_localValues_eq_none_iff.2 h, Option.none_or]

/-- A variable has the value of the last template of its name, or if there is none, the
one it has in the run. -/
theorem get?_withLocals {name : String} {value : Json} :
    (ctx.withLocals locals draws).1.get? name = some value ↔
      (∃ before template after, locals = before ++ (name, template) :: after ∧
        name ∉ after.map Prod.fst ∧
        value = .string (substitute .plain ctx template (draws.skip (tokens before))).1) ∨
      name ∉ locals.map Prod.fst ∧ ctx.get? name = some value := by
  constructor
  · intro h
    by_cases hname : name ∈ locals.map Prod.fst
    · obtain ⟨before, template, after, rfl, hafter⟩ := exists_last_of_mem hname
      rw [get?_withLocals_of_last hafter] at h
      exact .inl ⟨before, template, after, rfl, hafter, (Option.some.inj h).symm⟩
    · rw [get?_withLocals_of_not_mem hname] at h
      exact .inr ⟨hname, h⟩
  · intro h
    cases h with
    | inl h =>
      obtain ⟨before, template, after, rfl, hafter, rfl⟩ := h
      exact get?_withLocals_of_last hafter
    | inr h => rw [get?_withLocals_of_not_mem h.1, h.2]

/-! ## without dynamic tokens -/

theorem localValues_static (h : Static locals) :
    (ctx.localValues locals draws).1 = locals.map fun l =>
      (l.1, .string (String.ofList (Placeholder.expandNames .plain ctx l.2.toList))) := by
  induction locals generalizing draws with
  | nil => rfl
  | cons l locals ih =>
    have htemplate := h l List.mem_cons_self
    have hrest : Static locals := fun m hm => h m (List.mem_cons_of_mem _ hm)
    rw [localValues_cons, ih hrest, substitute_static htemplate, List.map_cons]

/-- Templates of different names are put on top in any order. -/
theorem withLocals_perm {locals' : List (String × String)} (hperm : locals.Perm locals')
    (hnames : (locals.map Prod.fst).Nodup) (hstatic : Static locals) (draws' : Draws) :
    (ctx.withLocals locals draws).1 = (ctx.withLocals locals' draws').1 := by
  have hstatic' : Static locals' := fun l hl => hstatic l (hperm.mem_iff.2 hl)
  have hvalues : ((ctx.localValues locals draws).1.map Prod.fst).Nodup := by
    rwa [map_fst_localValues]
  rw [withLocals_fst, withLocals_fst]
  refine ctx.insertAll_perm ?_ hvalues
  rw [localValues_static hstatic, localValues_static hstatic']
  exact hperm.map _

end Context

/-- A template without dynamic tokens is resolved alike, whatever is drawn. -/
theorem RequestTemplate.Static.resolve_eq {t : RequestTemplate} (h : t.Static) (c : Config)
    (env : Environment) (ctx : Context) (draws draws' : Draws) :
    (c.resolve env t ctx draws).1 = (c.resolve env t ctx draws').1 :=
  Config.resolve_congr (h.urlText_eq ctx draws draws') (h.lineTexts_eq ctx draws draws')
    (h.bodyText_eq ctx draws draws') rfl rfl fun _ => rfl

/-- The turn of a step leaves the variables of the run as they are, or adds what it
captures of its response. -/
theorem Runner.Taken.context_eq {r : Runner} {p : Position} {s t : RunState}
    {x : Except Error StepResult} (h : Taken r p s x t) :
    t.context = s.context ∨ ∃ response, t.context = (captured p response s).context := by
  cases h with
  | unnamed | unresolved | withheld | abandoned | refused => exact .inl rfl
  | failed | passed => exact .inr ⟨_, rfl⟩

/-- The variables of a step, exactly.  A listed name has the last of its templates, with
the variables of the run put in; any other name has what it has in the run.  A name that
stands in a template and has no value in the run stays there, also if it is listed.  The
variables of the run are not touched: a turn leaves them as they are, or adds what it
captures.  And templates of different names without dynamic tokens make the same context
in any order, so that they lead to the same requests. -/
theorem Context.withLocals_exact (ctx : Context) (locals : List (String × String))
    (draws : Draws) :
    (∀ name value, (ctx.withLocals locals draws).1.get? name = some value ↔
      (∃ before template after, locals = before ++ (name, template) :: after ∧
        name ∉ after.map Prod.fst ∧
        value = .string (substitute .plain ctx template (draws.skip (Locals.tokens before))).1) ∨
      name ∉ locals.map Prod.fst ∧ ctx.get? name = some value) ∧
    (∀ before name template after, locals = before ++ (name, template) :: after →
      name ∉ after.map Prod.fst →
      (∀ token i, ¬ DynamicToken.StandsAt token template.toList i) →
      (∀ other i, Placeholder.StandsAt other template.toList i → ctx.get? other = none) →
      (ctx.withLocals locals draws).1.get? name = some (.string template)) ∧
    (∀ (r : Runner) (p : Position) (s : RunState),
      (r.takeTurn p s).2.context = s.context ∨
        ∃ response : Response, (r.takeTurn p s).2.context =
          (capture p.name response.body p.step.action.extract s.context).context) ∧
    ∀ locals', locals.Perm locals' → (locals.map Prod.fst).Nodup → Locals.Static locals →
      ∀ draws', (ctx.withLocals locals draws).1 = (ctx.withLocals locals' draws').1 ∧
        ∀ (c : Config) (env : Environment) (t : RequestTemplate), t.Static → ∀ later later',
          (c.resolve env t (ctx.withLocals locals draws).1 later).1 =
            (c.resolve env t (ctx.withLocals locals' draws').1 later').1 := by
  refine ⟨fun name value => get?_withLocals, ?unseen, ?global, ?order⟩
  case unseen =>
    intro before name template after hlocals hafter hplain hunbound
    rw [hlocals, get?_withLocals_of_last hafter, substitute_static hplain,
      Placeholder.expandNames_of_unbound .plain hunbound, String.ofList_toList]
  case global =>
    intro r p s
    exact (r.takeTurn_taken p s).context_eq
  case order =>
    intro locals' hperm hnames hstatic draws'
    have hsame : (ctx.withLocals locals draws).1 = (ctx.withLocals locals' draws').1 :=
      withLocals_perm hperm hnames hstatic draws'
    refine ⟨hsame, fun c env t ht later later' => ?_⟩
    rw [hsame, ht.resolve_eq c env _ later later']

/-- A page in the variables of a run. -/
def firstPage : Context := Dict.empty.insert "page" (.string "1")

/-- Variables of a step that mention each other. -/
def pageLocals : List (String × String) :=
  [("page", "2"), ("path", "/users/\x7b\x7bpage\x7d\x7d"), ("next", "\x7b\x7bpath\x7d\x7d")]

/-- A template that mentions one of them. -/
def pageTemplate : RequestTemplate := .bare "GET" "http://[::1]/?path=\x7b\x7bpath\x7d\x7d"

/-- The path has the page of the run, the step after it has no path, and all of this holds
in any order. -/
theorem Context.withLocals_exact_pages :
    pageLocals.Perm pageLocals.reverse ∧ (pageLocals.map Prod.fst).Nodup ∧
    Locals.Static pageLocals ∧ pageTemplate.Static ∧
    (firstPage.withLocals pageLocals ⟨id, id, 0⟩).1.get? "path" = some (.string "/users/1") ∧
    (firstPage.withLocals pageLocals ⟨id, id, 0⟩).1.get? "next" =
      some (.string "\x7b\x7bpath\x7d\x7d") ∧
    (Config.empty.resolve (fun _ => none) pageTemplate
        (firstPage.withLocals pageLocals ⟨id, id, 0⟩).1 ⟨id, id, 0⟩).1 =
      (Config.empty.resolve (fun _ => none) pageTemplate
        (firstPage.withLocals pageLocals.reverse ⟨id, id, 0⟩).1 ⟨id, id, 0⟩).1 := by
  obtain ⟨hvalues, hunseen, -, horder⟩ :=
    Context.withLocals_exact firstPage pageLocals ⟨id, id, 0⟩
  have hreverse : pageLocals.Perm pageLocals.reverse := (List.reverse_perm _).symm
  have hnames : (pageLocals.map Prod.fst).Nodup := by decide
  have hdollar : ∀ l ∈ pageLocals, '$' ∉ l.2.toList := by decide
  have hstatic : Locals.Static pageLocals := fun l hl =>
    DynamicToken.not_standsAt_of_not_mem (hdollar l hl)
  have htemplate : pageTemplate.Static := RequestTemplate.static_bare (by decide)
  have hunbound : ∀ other i,
      Placeholder.StandsAt other "\x7b\x7bpath\x7d\x7d".toList i → firstPage.get? other = none := by
    intro other i hstands
    -- the page does not occur
    rw [firstPage, Dict.get?_insert, if_neg]
    · rfl
    · rintro rfl
      have hname : 'g' ∈ Placeholder.written "page" := by decide
      exact absurd (List.mem_of_mem_drop (hstands.2.subset hname)) (by decide)
  refine ⟨hreverse, hnames, hstatic, htemplate, ?path, ?next, ?request⟩
  case path =>
    exact (hvalues "path" _).2 (.inl ⟨[("page", "2")], _, [_], rfl, by decide, rfl⟩)
  case next =>
    exact hunseen [_, _] "next" _ [] rfl (by decide) (hstatic ("next", _) (by decide)) hunbound
  case request =>
    exact (horder _ hreverse hnames hstatic _).2 _ _ _ htemplate _ _

end HttpChain
