import HttpChain.Proofs.Variable.Capture
import HttpChain.Proofs.Writes
import Mathlib.Data.List.Basic

/-!
# HttpChain.Proofs.Variable.Extraction

What captures bind, said without the walk over them.  A capture binds what the query
of its path selects of the document (`Binds`), whatever the other captures are; the
value of a variable is that of the last capture of its name that binds one, or else the
one it had.  So captures of different variables can be taken in any order
(`capture_exact`).
-/

namespace HttpChain

namespace Capture

/-! ## one capture -/

/-- A capture binds a value: the path in full is a query, and the value is the only one
that it selects of the document, or else the array of all that it selects, in order. -/
def Binds (document : Json) (c : Capture) (value : Json) : Prop :=
  ∃ query, JsonPath.parse? c.normalizedPath.toList = some query ∧
    (query.select document = [value] ∨
      2 ≤ (query.select document).length ∧ value = .array (query.select document))

/-- A capture hits: the path in full is a query, and it selects something. -/
def Hits (document : Json) (c : Capture) : Prop :=
  ∃ query, JsonPath.parse? c.normalizedPath.toList = some query ∧ query.select document ≠ []

variable {document : Json} {c : Capture} {value : Json}

theorem value_eq_ok_iff : c.value document = .ok value ↔ c.Binds document value := by
  unfold Capture.value valueAt Binds
  cases JsonPath.parse? c.normalizedPath.toList with
  | none => simp [throw, throwThe, MonadExceptOf.throw]
  | some query =>
    simp only [Option.some.injEq, exists_eq_left']
    match query.select document with
    | [] => simp [throw, throwThe, MonadExceptOf.throw]
    | [v] => simp [pure, Except.pure]
    | v :: w :: vs => simp [pure, Except.pure, eq_comm]

theorem hits_iff : c.Hits document ↔ ∃ value, c.Binds document value := by
  constructor
  · intro h
    obtain ⟨query, hquery, hselect⟩ := h
    match hvalues : query.select document with
    | [] => exact absurd hvalues hselect
    | [v] => exact ⟨v, query, hquery, .inl hvalues⟩
    | v :: w :: vs => exact ⟨_, query, hquery, .inr ⟨by simp [hvalues], rfl⟩⟩
  · intro h
    obtain ⟨value, query, hquery, hselect⟩ := h
    refine ⟨query, hquery, fun hnil => ?_⟩
    simp [hnil] at hselect

instance : Decidable (c.Hits document) :=
  decidable_of_iff ((c.value document).toOption.isSome = true) (by
    simp only [hits_iff, ← value_eq_ok_iff]
    cases c.value document <;> simp [Except.toOption])

theorem hit?_eq_some_iff {name : String} :
    c.hit? document = some (name, value) ↔ c.name = name ∧ c.Binds document value := by
  rw [← value_eq_ok_iff]
  unfold hit?
  cases c.value document <;> simp

theorem hit?_eq_none_iff : c.hit? document = none ↔ ¬ c.Hits document := by
  simp only [hits_iff, ← value_eq_ok_iff]
  unfold hit?
  cases c.value document <;> simp

/-- What one capture writes to a variable. -/
theorem lastWrite?_hit?_eq_some_iff {name : String} :
    lastWrite? (fun k => decide (k = name)) (c.hit? document).toList = some value ↔
      c.name = name ∧ c.Binds document value := by
  rw [← hit?_eq_some_iff]
  cases h : c.hit? document with
  | none => simp [lastWrite?]
  | some w => simp [lastWrite?, Prod.ext_iff]

theorem lastWrite?_hit?_eq_none_iff {name : String} :
    lastWrite? (fun k => decide (k = name)) (c.hit? document).toList = none ↔
      (c.name = name → ¬ c.Hits document) := by
  rw [Option.eq_none_iff_forall_ne_some, hits_iff]
  simp only [ne_eq, lastWrite?_hit?_eq_some_iff, not_and, not_exists]
  exact forall_comm

/-! ## a list of captures -/

/-- The variables that captures bind are those of the captures that hit, in order. -/
theorem map_fst_filterMap_hit? (document : Json) (captures : List Capture) :
    (captures.filterMap (hit? document)).map Prod.fst =
      (captures.filter fun c => c.Hits document).map Capture.name := by
  induction captures with
  | nil => rfl
  | cons c captures ih =>
    cases h : c.hit? document with
    | none =>
      have hmiss : ¬ c.Hits document := hit?_eq_none_iff.1 h
      simp [h, hmiss, ih]
    | some w =>
      obtain ⟨hname, hbinds⟩ := hit?_eq_some_iff.1 h
      have hhit : c.Hits document := hits_iff.2 ⟨w.2, hbinds⟩
      simp [h, hhit, hname, ih]

/-- Captures of different variables bind them in any order. -/
theorem nodup_filterMap_hit? (document : Json) {captures : List Capture}
    (h : (captures.map Capture.name).Nodup) :
    ((captures.filterMap (hit? document)).map Prod.fst).Nodup := by
  rw [map_fst_filterMap_hit?]
  exact h.sublist ((List.filter_sublist).map _)

end Capture

section Document

variable {request body : String} {document : Json} {captures : List Capture} {ctx : Context}

theorem names_capture_of_read (h : Json.read? body = some document) :
    (capture request body captures ctx).names =
      (captures.filter fun c => c.Hits document).map Capture.name := by
  rw [names_capture, Capture.hits, h]
  exact Capture.map_fst_filterMap_hit? document captures

/-- A variable has the value of the last capture of its name that hits, or else the one
it had. -/
theorem get?_context_capture_of_read (h : Json.read? body = some document) {name : String}
    {value : Json} :
    (capture request body captures ctx).context.get? name = some value ↔
      (∃ before c after, captures = before ++ c :: after ∧ (c.name = name ∧ c.Binds document value) ∧
        ∀ later ∈ after, later.name = name → ¬ later.Hits document) ∨
      (∀ c ∈ captures, c.name = name → ¬ c.Hits document) ∧ ctx.get? name = some value := by
  rw [context_capture, Dict.get?_insertAll, Option.or_eq_some_iff, Capture.hits, h]
  simp only [List.filterMap_eq_flatMap_toList, lastWrite?_flatMap_eq_some_iff,
    lastWrite?_flatMap_eq_none_iff, Capture.lastWrite?_hit?_eq_some_iff,
    Capture.lastWrite?_hit?_eq_none_iff]

end Document

/-- What captures make of a context, exactly.  If the body is no JSON, they bind nothing.
Otherwise the names are those of the captures that hit, in order, and a variable has the
value that the last capture of its name that hits binds, or else the one it had; a
capture that misses, whose path may be no query, has no part in it.  Captures in another
order hit all the same, and if their names are different they make the same context. -/
theorem capture_exact (request body : String) (captures : List Capture) (ctx : Context) :
    (Json.read? body = none →
      (capture request body captures ctx).names = [] ∧
      (capture request body captures ctx).context = ctx) ∧
    (∀ document, Json.read? body = some document →
      (capture request body captures ctx).names =
        (captures.filter fun c => c.Hits document).map Capture.name ∧
      ∀ name value, (capture request body captures ctx).context.get? name = some value ↔
        (∃ before c after, captures = before ++ c :: after ∧
          (c.name = name ∧ c.Binds document value) ∧
          ∀ later ∈ after, later.name = name → ¬ later.Hits document) ∨
        (∀ c ∈ captures, c.name = name → ¬ c.Hits document) ∧ ctx.get? name = some value) ∧
    ∀ captures', captures.Perm captures' →
      (capture request body captures ctx).names.Perm (capture request body captures' ctx).names ∧
      ((captures.map Capture.name).Nodup →
        (capture request body captures ctx).context =
          (capture request body captures' ctx).context) := by
  refine ⟨fun hbody => ?_, fun document hdocument => ?_, fun captures' hperm => ?_⟩
  · rw [names_capture, context_capture, Capture.hits, hbody]
    exact ⟨rfl, rfl⟩
  · exact ⟨names_capture_of_read hdocument, fun name value => get?_context_capture_of_read hdocument⟩
  · rw [names_capture, names_capture, context_capture, context_capture, Capture.hits, Capture.hits]
    cases Json.read? body with
    | none => exact ⟨.refl _, fun _ => rfl⟩
    | some document =>
      have hhits := hperm.filterMap (Capture.hit? document)
      exact ⟨hhits.map Prod.fst, fun hnames =>
        ctx.insertAll_perm hhits (Capture.nodup_filterMap_hit? document hnames)⟩

/-- A body without a token. -/
def idsBody : String := "\x7b\"ids\":[1,2]\x7d"

/-- Captures one of which misses and one of which has a path that is no query. -/
def idsCaptures : List Capture := [⟨"token", "token"⟩, ⟨"ids", "ids[*]"⟩, ⟨"last", "$["⟩]

/-- The token of before is kept, and the order of the captures does not matter. -/
theorem capture_exact_missed :
    (∃ document, Json.read? idsBody = some document) ∧ idsCaptures.Perm idsCaptures.reverse ∧
    (idsCaptures.map Capture.name).Nodup ∧
    (capture "list" idsBody idsCaptures (Dict.empty.insert "token" .null)).context.get? "token" =
      some .null ∧
    (capture "list" idsBody idsCaptures (Dict.empty.insert "token" .null)).context =
      (capture "list" idsBody idsCaptures.reverse (Dict.empty.insert "token" .null)).context := by
  obtain ⟨-, hread, hperm⟩ :=
    capture_exact "list" idsBody idsCaptures (Dict.empty.insert "token" .null)
  have hmiss : (Json.read? idsBody).map (fun document => (idsCaptures.filter fun c =>
      c.Hits document).map Capture.name) = some ["ids"] := by decide +kernel
  obtain ⟨document, hdocument, hnames⟩ := Option.map_eq_some_iff.1 hmiss
  have htoken : ∀ c ∈ idsCaptures, c.name = "token" → ¬ c.Hits document := by
    intro c hc hname hhit
    have hmem : c.name ∈ (idsCaptures.filter fun c => c.Hits document).map Capture.name :=
      List.mem_map_of_mem (List.mem_filter.2 ⟨hc, decide_eq_true hhit⟩)
    rw [hnames, hname] at hmem
    exact absurd hmem (by decide)
  have hnodup : (idsCaptures.map Capture.name).Nodup := by decide
  have hreverse : idsCaptures.Perm idsCaptures.reverse := (List.reverse_perm _).symm
  exact ⟨⟨document, hdocument⟩, hreverse, hnodup,
    ((hread document hdocument).2 "token" .null).2 (.inr ⟨htoken, rfl⟩),
    (hperm _ hreverse).2 hnodup⟩

end HttpChain
