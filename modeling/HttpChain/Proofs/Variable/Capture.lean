import HttpChain.Variable.Capture

/-!
# HttpChain.Proofs.Variable.Capture

Capturing in one go.  `capture` walks its captures with a context that changes
on the way; `hits` says what it binds without one, and the context behind a
capture is the one before it, overlaid by the hits.
-/

namespace HttpChain

namespace Capture

/-- The variable that a capture binds, with its value, if its path selects
anything. -/
def hit? (document : Json) (c : Capture) : Option (String × Json) :=
  match c.value document with
  | .ok v => some (c.name, v)
  | .error _ => none

/-- What captures bind when they are taken of a response body, in order. -/
def hits (captures : List Capture) (body : String) : List (String × Json) :=
  match Json.read? body with
  | some document => captures.filterMap (hit? document)
  | none => []

end Capture

namespace Captured

theorem context_add (document : Json) (s : Captured) (c : Capture) :
    (s.add document c).context = s.context.insertAll (c.hit? document).toList := by
  rw [add, Capture.hit?]
  cases c.value document <;> rfl

theorem names_add (document : Json) (s : Captured) (c : Capture) :
    (s.add document c).names = s.names ++ (c.hit? document).toList.map Prod.fst := by
  rw [add, Capture.hit?]
  cases c.value document with
  | error f => simp
  | ok v => rfl

theorem context_foldl_add (document : Json) (captures : List Capture) (s : Captured) :
    (captures.foldl (add document) s).context =
      s.context.insertAll (captures.filterMap (Capture.hit? document)) := by
  induction captures generalizing s with
  | nil => rfl
  | cons c captures ih =>
    rw [List.foldl_cons, ih, context_add, ← Dict.insertAll_append, List.filterMap_cons]
    cases c.hit? document <;> rfl

theorem names_foldl_add (document : Json) (captures : List Capture) (s : Captured) :
    (captures.foldl (add document) s).names =
      s.names ++ (captures.filterMap (Capture.hit? document)).map Prod.fst := by
  induction captures generalizing s with
  | nil => simp
  | cons c captures ih =>
    rw [List.foldl_cons, ih, names_add, List.append_assoc, List.filterMap_cons]
    cases c.hit? document <;> rfl

end Captured

/-- The context behind a capture is the one before it, overlaid by the hits. -/
theorem context_capture (request body : String) (captures : List Capture) (ctx : Context) :
    (capture request body captures ctx).context = ctx.insertAll (Capture.hits captures body) := by
  rw [capture, Capture.hits]
  by_cases h : captures = []
  · subst h
    cases Json.read? body <;> rfl
  · rw [if_neg h]
    cases Json.read? body with
    | none => rfl
    | some document => exact Captured.context_foldl_add document captures (.nothing ctx)

/-- The names that a capture reports are those of the hits. -/
theorem names_capture (request body : String) (captures : List Capture) (ctx : Context) :
    (capture request body captures ctx).names = (Capture.hits captures body).map Prod.fst := by
  rw [capture, Capture.hits]
  by_cases h : captures = []
  · subst h
    cases Json.read? body <;> rfl
  · rw [if_neg h]
    cases Json.read? body with
    | none => rfl
    | some document => exact Captured.names_foldl_add document captures (.nothing ctx)

end HttpChain
