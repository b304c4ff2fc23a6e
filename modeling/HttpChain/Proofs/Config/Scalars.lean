import HttpChain.Assertion
import HttpChain.Config.Document
import HttpChain.Proofs.Comparison
import HttpChain.Proofs.Decimal.Layout
import HttpChain.Proofs.Variable.Front

/-!
# HttpChain.Proofs.Config.Scalars

Scalars of a config and JSON values, by their texts.  Strings, integers and truth values
have one text on both sides.  A float has two layouts, which are the same exactly for a
plain one (`Decimal.Plain`); so an assertion that compares a captured value with the same
scalar of the config passes for plain floats alone, and a step variable stands for the
value that it is written as for these alone (`scalar_exact`).
-/

namespace HttpChain

open Placeholder

/-- The scalars of a config that are JSON values as well. -/
inductive Scalar where
  | string (s : String)
  | integer (n : Int) (fits : -0x8000000000000000 ≤ n ∧ n < 0x8000000000000000)
  | float (x : Binary64)
  | bool (b : Bool)

namespace Scalar

/-- A scalar as a config has it. -/
def toml : Scalar → Toml
  | string s => .string s
  | integer n _ => .integer n
  | float x => .float (.finite x)
  | bool b => .bool b

/-- A scalar as a JSON value. -/
def json : Scalar → Json
  | string s => .string s
  | integer n fits => .integer ⟨n, fits.1, by omega⟩
  | float x => .float x
  | bool b => .bool b

/-- The text that a config takes a scalar for. -/
def text : Scalar → String
  | string s => s
  | integer n _ => String.ofList (Text.signedDecimal n)
  | float x => String.ofList (Decimal.scalarForm x)
  | bool b => if b then "true" else "false"

/-- A scalar with one text on both sides: it is no float, or a plain one. -/
def Alike : Scalar → Prop
  | float x => Decimal.Plain x
  | _ => True

/-- No placeholder opens in a string. -/
def Unbraced : Scalar → Prop
  | string s => ¬ ['\x7b', '\x7b'] <:+: s.toList
  | _ => True

/-! ## texts -/

theorem scalarText?_toml (v : Scalar) : Toml.scalarText? v.toml = some v.text := by
  cases v with
  | string s => rfl
  | integer n fits =>
    have hfits : Text.fitsInt64 n = true := by simpa [Text.fitsInt64] using fits
    exact if_pos hfits
  | float x => rfl
  | bool b => rfl

theorem text_eq_iff (v : Scalar) : v.text = v.json.text ↔ v.Alike := by
  cases v with
  | string s => exact iff_of_true rfl trivial
  | integer n fits => exact iff_of_true rfl trivial
  | float x =>
    show String.ofList (Decimal.scalarForm x) = String.ofList (Decimal.documentForm x) ↔ _
    rw [String.ofList_inj, eq_comm]
    exact Decimal.documentForm_eq_scalarForm_iff x
  | bool b => cases b <;> exact iff_of_true rfl trivial

/-- Numbers and truth values have no braces. -/
theorem Unbraced.not_infix {v : Scalar} (h : v.Unbraced) :
    ¬ ['\x7b', '\x7b'] <:+: v.text.toList := by
  cases v with
  | string s => exact h
  | integer n fits =>
    rw [text, String.toList_ofList]
    exact not_opens_of_not_mem fun hmem =>
      absurd ((Text.numeral_signedDecimal n).isDigit_or_sign hmem) (by decide)
  | float x =>
    rw [text, String.toList_ofList]
    refine not_opens_of_not_mem fun hmem => ?_
    rcases Decimal.mem_scalarForm hmem with hchar | hchar | hchar <;>
      exact absurd hchar (by decide)
  | bool b => cases b <;> exact not_opens_of_not_mem (by decide)

/-- A float in a document denotes no integer. -/
theorem not_denotes_text_float (x : Binary64) (n : Int) :
    ¬ Comparison.Denotes (Json.float x).text n := by
  have htext : (Json.float x).text.toList = Decimal.documentForm x := by
    simp only [Json.text, Json.write, Json.toChars, Json.leaf, String.toList_ofList]
  intro h
  rcases Decimal.mark_mem_documentForm x with hmark | hmark
  · exact absurd (h.1.isDigit_or_sign (htext ▸ hmark)) (by decide)
  · exact absurd (h.1.isDigit_or_sign (htext ▸ hmark)) (by decide)

/-- A scalar equals the same JSON value, as texts, exactly if it has one text. -/
theorem compare_equal_iff (v : Scalar) :
    Comparison.equal.compare v.json.text v.text = true ↔ v.Alike := by
  rw [Comparison.compare_equal, Comparison.order_eq_eq_iff, ← text_eq_iff, eq_comm (a := v.text)]
  refine or_iff_left_of_imp fun hinteger => ?_
  obtain ⟨n, hn, -⟩ := hinteger
  cases v with
  | float x => exact absurd hn (not_denotes_text_float x n)
  | string s => exact ((text_eq_iff (.string s)).2 trivial).symm
  | integer n fits => exact ((text_eq_iff (.integer n fits)).2 trivial).symm
  | bool b => exact ((text_eq_iff (.bool b)).2 trivial).symm

end Scalar

/-! ## scalars as templates -/

/-- Substitution depends on a context through the texts of its variables. -/
theorem substitute_congr_text (enc : Encoding) {ctx ctx' : Context}
    (h : ∀ name, ctx.text? name = ctx'.text? name) (template : String) (draws : Draws) :
    substitute enc ctx template draws = substitute enc ctx' template draws := by
  rw [substitute_eq, substitute_eq, expandNames, expandNames, funext h]

namespace Context

theorem text?_insert (ctx : Context) (name other : String) (v : Json) :
    Context.text? (ctx.insert name v) other = if name = other then some v.text else ctx.text? other := by
  rw [text?, Dict.get?_insert]
  split <;> rfl

theorem withLocals_unbraced (ctx : Context) (name : String) {template : String}
    (h : ¬ ['\x7b', '\x7b'] <:+: template.toList) (draws : Draws) :
    (ctx.withLocals [(name, template)] draws).1 = ctx.insert name (.string template) := by
  rw [withLocals, Drawing.bind_apply, localValues, Drawing.bind_apply,
    substitute_of_not_opens .plain ctx h]
  rfl

end Context

namespace Scalar

/-- A step variable that is written as a scalar stands for the JSON value, in every
template, exactly if the scalar has one text. -/
theorem substitute_withLocals_iff (v : Scalar) (h : v.Unbraced) (ctx : Context) {name : String}
    (hname : IsName name) (draws : Draws) :
    (∀ enc template later, substitute enc (ctx.withLocals [(name, v.text)] draws).1 template later =
      substitute enc (ctx.insert name v.json) template later) ↔ v.Alike := by
  rw [Context.withLocals_unbraced ctx name h.not_infix, ← text_eq_iff]
  have htext (w : Json) : Context.text? (ctx.insert name w) name = some w.text := by
    rw [Context.text?_insert, if_pos rfl]
  constructor
  · intro hall
    have hwritten := hall .plain (String.ofList (written name)) draws
    rw [substitute_written_plain hname (htext _), substitute_written_plain hname (htext _)]
      at hwritten
    exact congrArg Prod.fst hwritten
  · intro heq enc template later
    refine substitute_congr_text enc (fun other => ?_) template later
    rw [Context.text?_insert, Context.text?_insert, ← heq]
    rfl

/-- An assertion that compares a variable with a scalar of the config passes where the
variable has the same JSON value, exactly if the scalar has one text. -/
theorem passed_iff (v : Scalar) (h : v.Unbraced) {ctx : Context} {name : String}
    (hname : IsName name) (hget : ctx.get? name = some v.json) (index : Nat) (draws : Draws) :
    (Assertion.evaluate index ⟨String.ofList (written name), .equal, v.text⟩ ctx draws).1.passed =
      true ↔ v.Alike := by
  have htext : ctx.text? name = some v.json.text := by
    rw [Context.text?, hget]
    rfl
  rw [Assertion.evaluate, Drawing.bind_apply, Drawing.bind_apply,
    substitute_written_plain hname htext, substitute_of_not_opens .plain ctx h.not_infix]
  exact compare_equal_iff v

end Scalar

/-- The texts of scalars, exactly.  A config takes a scalar for one text, as the right side
of an assertion and as a step variable.  This is the text of the same JSON value for every
string, integer and truth value, and for the plain ones among the floats alone.  Where a
variable has that JSON value, an assertion that it equals the scalar passes if and only if
the texts are the same, and so does a step variable written as the scalar stand for the
value; in a string no placeholder opens. -/
theorem scalar_exact (v : Scalar) :
    Toml.scalarText? v.toml = some v.text ∧
    (v.text = v.json.text ↔ v.Alike) ∧
    (∀ left operator, RawAssertion.ofToml? (.table
      [("left", .string left), ("op", .string operator), ("right", v.toml)]) =
        some ⟨left, operator, v.text⟩) ∧
    (∀ name, Toml.dict? Toml.scalarText? (.table [(name, v.toml)]) =
      some (Dict.ofList [(name, v.text)])) ∧
    ∀ name ctx, IsName name → v.Unbraced →
      (ctx.get? name = some v.json → ∀ index draws,
        ((Assertion.evaluate index ⟨String.ofList (written name), .equal, v.text⟩ ctx
          draws).1.passed = true ↔ v.Alike)) ∧
      ∀ draws, (∀ enc template later,
        substitute enc (ctx.withLocals [(name, v.text)] draws).1 template later =
          substitute enc (ctx.insert name v.json) template later) ↔ v.Alike := by
  have hread := v.scalarText?_toml
  refine ⟨hread, v.text_eq_iff, fun left operator => ?_, fun name => ?_,
    fun name ctx hname h => ⟨fun hget index draws => v.passed_iff h hname hget index draws,
      fun draws => v.substitute_withLocals_iff h ctx hname draws⟩⟩
  · have hleft : Toml.scalarText? (.string left) = some left := rfl
    simp only [RawAssertion.ofToml?, Toml.entries?, Toml.required?, Toml.valueAt?, String.reduceEq,
      if_true, if_false, Option.bind_eq_bind, Option.bind_some, hleft, hread, Toml.text?]
    rfl
  · simp only [Toml.dict?, List.mapM_cons, List.mapM_nil, hread, Option.map_some]
    rfl

/-- One half. -/
def Scalar.half : Scalar := .float ⟨false, 0x3FE0000000000000, by decide⟩

/-- The float one. -/
def Scalar.one : Scalar := .float ⟨false, 0x3FF0000000000000, by decide⟩

/-- One half is written alike. -/
theorem scalar_exact_half : IsName "rate" ∧ Scalar.half.Unbraced ∧ Scalar.half.text = "0.5" ∧
    (Assertion.evaluate 1 ⟨"\x7b\x7brate\x7d\x7d", .equal, "0.5"⟩
      (Dict.empty.insert "rate" Scalar.half.json) ⟨id, id, 0⟩).1.passed = true ∧
    substitute .plain (Context.withLocals .empty [("rate", "0.5")] ⟨id, id, 0⟩).1
        "at \x7b\x7brate\x7d\x7d" ⟨id, id, 0⟩ =
      substitute .plain (Dict.empty.insert "rate" Scalar.half.json)
        "at \x7b\x7brate\x7d\x7d" ⟨id, id, 0⟩ := by
  have hname : IsName "rate" := by decide
  have htext : Scalar.half.text = "0.5" := by decide +kernel
  have halike : Scalar.half.Alike := by
    show Decimal.Plain _
    decide +kernel
  obtain ⟨-, -, -, -, huses⟩ := scalar_exact Scalar.half
  obtain ⟨hpassed, hlocals⟩ := huses "rate" (Dict.empty.insert "rate" Scalar.half.json) hname trivial
  obtain ⟨-, hlocals⟩ := huses "rate" .empty hname trivial
  rw [htext] at hpassed hlocals
  exact ⟨hname, trivial, htext, (hpassed rfl 1 ⟨id, id, 0⟩).2 halike,
    (hlocals ⟨id, id, 0⟩).2 halike .plain _ _⟩

/-- The config takes the float one for `1`, and JSON writes it as `1.0`; so a variable that
has been captured as this float does not equal it. -/
theorem not_scalar_alike : Toml.scalarText? Scalar.one.toml = some "1" ∧ Scalar.one.json.text = "1.0" ∧
    Scalar.one.text ≠ Scalar.one.json.text ∧
    (Assertion.evaluate 1 ⟨"\x7b\x7brate\x7d\x7d", .equal, Scalar.one.text⟩
      (Dict.empty.insert "rate" Scalar.one.json) ⟨id, id, 0⟩).1.passed = false := by
  decide +kernel

end HttpChain
