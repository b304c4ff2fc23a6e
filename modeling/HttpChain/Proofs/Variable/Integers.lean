import HttpChain.Assertion
import HttpChain.Proofs.Json.Number
import HttpChain.Proofs.Variable.Extraction
import HttpChain.Proofs.Variable.Front

/-!
# HttpChain.Proofs.Variable.Integers

Integers on their way from a response into an assertion.  The decimal form that a
captured integer is put in as denotes it (`denotes_text_integer`), and operands that
denote integers are compared as these (`compare_of_denotes`); so an assertion about
captured integers says what it says of the integers (`evaluate_integers`).
-/

namespace HttpChain

open Placeholder

namespace Comparison

/-- What a comparison says of two integers. -/
def Holds : Comparison → Int → Int → Prop
  | equal, a, b => a = b
  | notEqual, a, b => a ≠ b
  | atMost, a, b => a ≤ b
  | atLeast, a, b => b ≤ a
  | less, a, b => a < b
  | greater, a, b => b < a

theorem holdsOf_compare (c : Comparison) (a b : Int) :
    c.holdsOf (Ord.compare a b) = true ↔ c.Holds a b := by
  cases c with
  | equal => simp [holdsOf, Holds]
  | notEqual => simp [holdsOf, Holds]
  | atMost => simp [holdsOf, Holds, Int.compare_eq_gt]
  | atLeast => simp [holdsOf, Holds, Int.compare_eq_lt]
  | less => simp [holdsOf, Holds, Int.compare_eq_lt]
  | greater => simp [holdsOf, Holds, Int.compare_eq_gt]

/-- Operands that denote integers are compared as these. -/
theorem compare_of_denotes {l r : String} {a b : Int} (hl : Denotes l a) (hr : Denotes r b)
    (c : Comparison) : c.compare l r = true ↔ c.Holds a b := by
  rw [compare, order_of_denotes hl hr, holdsOf_compare]

/-- Numerals hold no brace. -/
theorem Denotes.not_mem {text : String} {n : Int} (h : Denotes text n) :
    '\x7b' ∉ text.toList := fun hmem =>
  absurd (h.1.isDigit_or_sign hmem) (by decide)

end Comparison

/-- The text of an integer denotes it. -/
theorem Json.denotes_text_integer {n : WordInt} (h : n.val < 0x8000000000000000) :
    Comparison.Denotes (Json.integer n).text n.val := by
  have htext : (Json.integer n).text.toList = Text.signedDecimal n.val := by
    simp only [Json.text, Json.write, Json.toChars, Json.leaf, String.toList_ofList]
  refine ⟨?_, n.fits.1, h⟩
  rw [htext]
  exact Text.numeral_signedDecimal n.val

/-- Captures extract a value into a variable: the path of its last capture that hits
selects the value alone. -/
def Extracts (document : Json) (captures : List Capture) (name : String) (value : Json) : Prop :=
  ∃ before c after query, captures = before ++ c :: after ∧ c.name = name ∧
    JsonPath.parse? c.normalizedPath.toList = some query ∧ query.select document = [value] ∧
    ∀ later ∈ after, later.name = name → ¬ later.Hits document

theorem Extracts.get?_context {request body name : String} {document value : Json}
    {captures : List Capture} (h : Extracts document captures name value)
    (hread : Json.read? body = some document) (ctx : Context) :
    (capture request body captures ctx).context.get? name = some value := by
  obtain ⟨before, c, after, query, hcaptures, hname, hquery, hselect, hlast⟩ := h
  exact (get?_context_capture_of_read hread).2
    (.inl ⟨before, c, after, hcaptures, ⟨hname, query, hquery, .inl hselect⟩, hlast⟩)

/-- Assertions about captured integers are exact.  Wherever a value is read, it is an
integer exactly if the plain decimal form of the integer stands there.  Where captures
extract two signed 64-bit integers of a body into variables, an assertion about the two
passes if and only if its comparison holds of the integers; and so does an assertion that
compares the first variable with any numeral of the second integer. -/
theorem evaluate_integers (request body : String) (document : Json) (captures : List Capture)
    (ctx : Context) (x y : String) (m n : WordInt) (hread : Json.read? body = some document)
    (hx : IsName x) (hy : IsName y) (hm : m.val < 0x8000000000000000)
    (hn : n.val < 0x8000000000000000) (hxm : Extracts document captures x (.integer m))
    (hyn : Extracts document captures y (.integer n)) :
    (∀ fuel depth cs rest k, Json.value? (fuel + 1) depth cs = some (.integer k, rest) ↔
      Json.skipSpace cs = Text.signedDecimal k.val ++ rest ∧ Json.Ends rest) ∧
    ∀ op index draws,
      ((Assertion.evaluate index ⟨String.ofList (written x), op, String.ofList (written y)⟩
        (capture request body captures ctx).context draws).1.passed = true ↔
          op.Holds m.val n.val) ∧
      ∀ t, Comparison.Denotes t n.val →
        ((Assertion.evaluate index ⟨String.ofList (written x), op, t⟩
          (capture request body captures ctx).context draws).1.passed = true ↔
            op.Holds m.val n.val) := by
  have hleft := Json.denotes_text_integer hm
  have hright := Json.denotes_text_integer hn
  have htext {name : String} {value : Json} (h : Extracts document captures name value) :
      (capture request body captures ctx).context.text? name = some value.text := by
    rw [Context.text?, h.get?_context hread]
    rfl
  have hput {name : String} {value : Json} (hname : IsName name)
      (h : Extracts document captures name value) (draws : Draws) :
      substitute .plain (capture request body captures ctx).context
        (String.ofList (written name)) draws = (value.text, draws) :=
    substitute_written_plain hname (htext h) draws
  refine ⟨fun fuel depth cs rest k => Json.value?_integer_iff, fun op index draws =>
    ⟨?_, fun t ht => ?_⟩⟩
  · rw [Assertion.evaluate, Drawing.bind_apply, Drawing.bind_apply, hput hx hxm, hput hy hyn]
    exact Comparison.compare_of_denotes hleft hright op
  · rw [Assertion.evaluate, Drawing.bind_apply, Drawing.bind_apply, hput hx hxm,
      substitute_of_not_opens .plain _ (not_opens_of_not_mem ht.not_mem)]
    exact Comparison.compare_of_denotes hleft ht op

/-- The integer that the path of a capture selects, if it selects that alone. -/
def Capture.integer? (document : Json) (c : Capture) : Option Int :=
  (JsonPath.parse? c.normalizedPath.toList).bind fun query =>
    match query.select document with
    | [.integer n] => some n.val
    | _ => none

theorem Capture.exists_query_of_integer? {document : Json} {c : Capture} {n : WordInt}
    (h : c.integer? document = some n.val) : ∃ query,
      JsonPath.parse? c.normalizedPath.toList = some query ∧
        query.select document = [.integer n] := by
  obtain ⟨query, hquery, hselect⟩ := Option.bind_eq_some_iff.1 h
  refine ⟨query, hquery, ?_⟩
  split at hselect
  · next k hk =>
    obtain ⟨k, hfits⟩ := k
    obtain rfl : k = n.val := Option.some.inj hselect
    exact hk
  · cases hselect

/-- A body with the least signed 64-bit integer. -/
def leastBody : String := "\x7b\"least\":-9223372036854775808,\"sizes\":[5]\x7d"

/-- The captures of its two integers. -/
def leastCaptures : List Capture := [⟨"least", "least"⟩, ⟨"size", "$.sizes[0]"⟩]

/-- The least integer is less than five, however five is written. -/
theorem evaluate_integers_least : ∃ document, Json.read? leastBody = some document ∧
    Extracts document leastCaptures "least" (.integer ⟨-0x8000000000000000, by decide⟩) ∧
    Extracts document leastCaptures "size" (.integer ⟨5, by decide⟩) ∧
    (Assertion.evaluate 1 ⟨"\x7b\x7bleast\x7d\x7d", .less, "\x7b\x7bsize\x7d\x7d"⟩
      (capture "list" leastBody leastCaptures .empty).context ⟨id, id, 0⟩).1.passed = true ∧
    (Assertion.evaluate 1 ⟨"\x7b\x7bleast\x7d\x7d", .less, "+005"⟩
      (capture "list" leastBody leastCaptures .empty).context ⟨id, id, 0⟩).1.passed = true := by
  have hcaptured : (Json.read? leastBody).map (fun document =>
      leastCaptures.map (Capture.integer? document)) =
        some [some (-0x8000000000000000), some 5] := by decide +kernel
  obtain ⟨document, hread, hcaptured⟩ := Option.map_eq_some_iff.1 hcaptured
  simp only [leastCaptures, List.map_cons, List.map_nil, List.cons.injEq, and_true] at hcaptured
  obtain ⟨query, hquery, hselect⟩ := Capture.exists_query_of_integer?
    (n := ⟨-0x8000000000000000, by decide⟩) hcaptured.1
  obtain ⟨query', hquery', hselect'⟩ := Capture.exists_query_of_integer?
    (n := ⟨5, by decide⟩) hcaptured.2
  have hleast : Extracts document leastCaptures "least"
      (.integer ⟨-0x8000000000000000, by decide⟩) :=
    ⟨[], _, [⟨"size", "$.sizes[0]"⟩], query, rfl, rfl, hquery, hselect, by simp⟩
  have hsize : Extracts document leastCaptures "size" (.integer ⟨5, by decide⟩) :=
    ⟨[⟨"least", "least"⟩], _, [], query', rfl, rfl, hquery', hselect', nofun⟩
  obtain ⟨-, hexact⟩ := evaluate_integers "list" leastBody document leastCaptures .empty "least"
    "size" _ _ hread (by decide) (by decide) (by decide) (by decide) hleast hsize
  obtain ⟨hvariables, hnumerals⟩ := hexact .less 1 ⟨id, id, 0⟩
  have hfive : Comparison.Denotes "+005" 5 := Comparison.integer?_eq_some_iff.1 (by decide)
  have hless : Comparison.less.Holds (-0x8000000000000000) 5 := by
    show (-0x8000000000000000 : Int) < 5
    decide
  exact ⟨document, hread, hleast, hsize, hvariables.2 hless, (hnumerals _ hfive).2 hless⟩

end HttpChain
