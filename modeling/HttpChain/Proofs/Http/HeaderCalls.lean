import HttpChain.Proofs.Http.HeaderLine
import Mathlib.Data.List.FinRange

/-!
# HttpChain.Proofs.Http.HeaderCalls

The headers of a request that is built call by call.  A call writes one header, by its
name and value or by a line, or it is a line that sets none and leaves the request alone
(`HeaderCall.run_eq`).  What any number of calls leaves is settled by the writes among them
(`HeaderCall.runAll_eq`): the headers are those that no later one overrides, in the order in
which they were written (`headers_exact`).
-/

namespace HttpChain

open Text (sameName)

/-- The writes that no later one overrides, by the places where they stand. -/
theorem HeaderList.lasting_eq_map_finRange (ws : List (String × String)) :
    lasting ws = ((List.finRange ws.length).filter fun i : Fin ws.length =>
      !(ws.drop (i + 1)).any fun later => sameName later.1 (ws.get i).1).map ws.get := by
  induction ws with
  | nil => rfl
  | cons w ws ih =>
    -- the first place is that of `w`, and the others are those of `ws` moved by one
    have hplaces : List.finRange (w :: ws).length =
        0 :: (List.finRange ws.length).map Fin.succ := List.finRange_succ
    rw [lasting, hplaces, List.filter_cons, List.filter_map, ih]
    by_cases h : (ws.any fun e => sameName e.1 w.1) = true
    · simp [h, Function.comp_def]
    · simp [h, Function.comp_def]

/-- A call on a request that may write a header: by its name and value, whether the request
is kept or handed on, or by a line. -/
inductive HeaderCall where
  | header (name value : String)
  | line (text : String)

namespace HeaderCall

/-- The request after a call: a line that sets no header leaves it as it is. -/
def run (r : Request) : HeaderCall → Request
  | header name value => r.setHeader name value
  | line text => { r with headers := (r.headers.setLine? text).getD r.headers }

/-- The request after calls, made one after the other. -/
def runAll (r : Request) (calls : List HeaderCall) : Request := calls.foldl run r

/-- A call writes a header: it is given by name and value, or a line sets it. -/
inductive Writes : HeaderCall → String → String → Prop where
  | header (name value : String) : Writes (.header name value) name value
  | line {text name value : String} : HeaderList.Sets text name value →
      Writes (.line text) name value

/-- The name and the value that a call writes. -/
def write? : HeaderCall → Option (String × String)
  | header name value => some (name, value)
  | line text => HeaderList.line? text

theorem write?_eq_some_iff {call : HeaderCall} {name value : String} :
    call.write? = some (name, value) ↔ call.Writes name value := by
  constructor
  · intro h
    cases call with
    | header _ _ =>
      cases h
      exact .header name value
    | line text => exact .line (HeaderList.line?_eq_some_iff.1 h)
  · intro h
    cases h with
    | header => rfl
    | line hsets => exact HeaderList.line?_eq_some_iff.2 hsets

/-- The headers that calls write, in order. -/
def writes (calls : List HeaderCall) : List (String × String) := calls.filterMap write?

/-! ## one call after the other -/

/-- A call writes its header, and nothing but headers. -/
theorem run_eq (r : Request) (call : HeaderCall) :
    call.run r = { r with headers := r.headers.writeAll call.write?.toList } := by
  cases call with
  | header name value => rfl
  | line text =>
    rw [run, write?, HeaderList.setLine?]
    cases HeaderList.line? text <;> rfl

theorem runAll_eq (r : Request) (calls : List HeaderCall) :
    runAll r calls = { r with headers := r.headers.writeAll (writes calls) } := by
  induction calls generalizing r with
  | nil => rfl
  | cons call calls ih =>
    have hwrites : writes (call :: calls) = call.write?.toList ++ writes calls := by
      rw [writes, writes, List.filterMap_cons]
      cases call.write? <;> rfl
    rw [runAll, List.foldl_cons, ← runAll, ih, run_eq, hwrites, HeaderList.writeAll_append]

end HeaderCall

open HeaderCall

/-- The headers of a request that starts with none, after any calls.  Nothing else of the
request has changed, and no two names are equal up to the case of ASCII letters.  The
list holds the writes behind which no other one has their name, in their order and as
they were written.  Under a name, in whatever spelling, the value of the last write to it
is read, and nothing if there is none. -/
theorem headers_exact (method : Method) (url : String) (calls : List HeaderCall) :
    (∀ (call : HeaderCall) (name value : String), call.write? = some (name, value) ↔
      call.Writes name value) ∧
    runAll (.bare method url) calls =
      { Request.bare method url with headers := (runAll (.bare method url) calls).headers } ∧
    (runAll (.bare method url) calls).headers.Pairwise (fun a b => sameName a.1 b.1 = false) ∧
    (runAll (.bare method url) calls).headers =
      ((List.finRange (writes calls).length).filter fun i : Fin (writes calls).length =>
        !((writes calls).drop (i + 1)).any fun later =>
          sameName later.1 ((writes calls).get i).1).map (writes calls).get ∧
    (∀ name value, (runAll (.bare method url) calls).header? name = some value ↔
      ∃ before spelling after, writes calls = before ++ (spelling, value) :: after ∧
        sameName spelling name = true ∧ ∀ later ∈ after, sameName later.1 name = false) ∧
    ∀ name, (runAll (.bare method url) calls).header? name = none ↔
      ∀ w ∈ writes calls, sameName w.1 name = false := by
  have hheaders : (runAll (.bare method url) calls).headers =
      HeaderList.writeAll [] (writes calls) := by rw [runAll_eq]; rfl
  have hread : ∀ name, (runAll (.bare method url) calls).header? name =
      lastWrite? (sameName · name) (writes calls) := by
    intro name
    rw [Request.header?, hheaders, HeaderList.get?_writeAll]
    exact Option.or_none
  refine ⟨fun call name value => write?_eq_some_iff, by rw [runAll_eq], ?_, ?_, ?_, ?_⟩
  · rw [hheaders]
    exact HeaderList.Distinct.writeAll List.Pairwise.nil _
  · rw [hheaders, HeaderList.writeAll_nil, HeaderList.lasting_eq_map_finRange]
  · intro name value
    rw [hread, lastWrite?_eq_some_iff]
  · intro name
    rw [hread, lastWrite?_eq_none_iff]

example : (runAll (.bare .get "http://localhost/")
    [.header "Accept" "text/plain", .header "X-Id" "1", .line "accept : a:b",
      .line ": none"]).headers = [("X-Id", "1"), ("accept", "a:b")] := by decide

end HttpChain
