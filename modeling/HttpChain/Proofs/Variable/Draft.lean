import HttpChain.Proofs.Json.RoundTrip
import HttpChain.Proofs.Variable.Front

/-!
# HttpChain.Proofs.Variable.Draft

JSON documents with placeholders in the places of values.  The braces of a placeholder
meet those of objects, but none of these is read as part of it, so that substitution puts
in exactly the values that are meant (`becomes_toChars`); the result is the text of the
document with the values in it, and is read as that document (`substitute_draft`).
-/

namespace HttpChain

open Placeholder

/-! ## pieces of a text -/

/-- The two passes of substitution turn a piece of a text into another, whatever follows
it, and draw nothing. -/
structure Becomes (ctx : Context) (cs out : List Char) : Prop where
  dynamic : ∀ rest d, expandDynamic (cs ++ rest) d =
    (cs ++ (expandDynamic rest d).1, (expandDynamic rest d).2)
  names : ∀ rest, expandNames .plain ctx (cs ++ rest) = out ++ expandNames .plain ctx rest

namespace Becomes

variable {ctx : Context} {cs cs' out out' : List Char}

theorem append (h : Becomes ctx cs out) (h' : Becomes ctx cs' out') :
    Becomes ctx (cs ++ cs') (out ++ out') where
  dynamic rest d := by rw [List.append_assoc, h.dynamic, h'.dynamic, List.append_assoc]
  names rest := by rw [List.append_assoc, h.names, h'.names, List.append_assoc]

theorem of_not_mem (ctx : Context) (h : '\x7b' ∉ cs) : Becomes ctx cs cs where
  dynamic := expandDynamic_append h
  names := expandNames_append .plain ctx h

/-- A character that is no brace, and a piece behind it. -/
theorem cons {c : Char} (hc : c ≠ '\x7b') (h : Becomes ctx cs out) :
    Becomes ctx (c :: cs) (c :: out) := by
  have hfront : Becomes ctx [c] [c] := of_not_mem ctx (by simpa using hc.symm)
  exact hfront.append h

/-- A brace that is followed by none stays, and so does nothing to the piece behind it. -/
theorem brace {c : Char} (hc : c ≠ '\x7b') (h : Becomes ctx (c :: cs) out) :
    Becomes ctx ('\x7b' :: c :: cs) ('\x7b' :: out) where
  dynamic rest d := by
    rw [List.cons_append, List.cons_append, expandDynamic_cons (dynamic_brace hc _),
      ← List.cons_append, h.dynamic]
    rfl
  names rest := by
    rw [List.cons_append, List.cons_append, expandNames_cons .plain ctx (grammar_brace hc _),
      ← List.cons_append, h.names]
    rfl

theorem written {name text : String} (hname : IsName name) (htext : ctx.text? name = some text) :
    Becomes ctx (written name) text.toList where
  dynamic := expandDynamic_name_append hname
  names rest := by
    rw [expandNames_written_append .plain ctx hname, htext]
    rfl

theorem substitute_eq (h : Becomes ctx cs out) (draws : Draws) :
    substitute .plain ctx (String.ofList cs) draws = (String.ofList out, draws) := by
  have hdynamic := h.dynamic [] draws
  have hnames := h.names []
  rw [List.append_nil] at hdynamic hnames
  rw [HttpChain.substitute_eq, String.toList_ofList, hdynamic]
  show (String.ofList (expandNames .plain ctx (cs ++ [])), draws) = _
  rw [List.append_nil, hnames]
  exact congrArg (fun cs => (String.ofList cs, draws)) (List.append_nil out)

end Becomes

/-! ## drafts -/

/-- A JSON document with placeholders in the places of some of its values. -/
inductive Draft where
  | hole (name : String)
  | atom (v : Json) (h : v.isAtom = true)
  | array (items : List Draft)
  | object (members : List (String × Draft))

namespace Draft

mutual

/-- The text of a draft on one line. -/
def toChars : Draft → List Char
  | hole name => written name
  | atom v _ => v.toChars
  | array items => '[' :: (itemsToChars items ++ [']'])
  | object members => '\x7b' :: (membersToChars members ++ ['\x7d'])

/-- Elements with commas between them. -/
def itemsToChars : List Draft → List Char
  | [] => []
  | [d] => toChars d
  | d :: ds => toChars d ++ ',' :: itemsToChars ds

/-- Members with commas between them. -/
def membersToChars : List (String × Draft) → List Char
  | [] => []
  | [(name, d)] => Json.quote name ++ ':' :: toChars d
  | (name, d) :: ms => Json.quote name ++ ':' :: (toChars d ++ ',' :: membersToChars ms)

end

mutual

/-- A draft with the values of the variables in their places, and the members of its
objects arranged in some way. -/
def fill (arrange : List (String × Json) → List (String × Json)) (ctx : Context) : Draft → Json
  | hole name => (ctx.get? name).getD .null
  | atom v _ => v
  | array items => .array (fillItems arrange ctx items)
  | object members => .object (arrange (fillMembers arrange ctx members))

/-- Elements with the values in their places. -/
def fillItems (arrange : List (String × Json) → List (String × Json)) (ctx : Context) :
    List Draft → List Json
  | [] => []
  | d :: ds => fill arrange ctx d :: fillItems arrange ctx ds

/-- Members with the values in their places. -/
def fillMembers (arrange : List (String × Json) → List (String × Json)) (ctx : Context) :
    List (String × Draft) → List (String × Json)
  | [] => []
  | (name, d) :: ms => (name, fill arrange ctx d) :: fillMembers arrange ctx ms

end

/-- The draft with the values in it, and its members where they are. -/
def filled (ctx : Context) (d : Draft) : Json := d.fill id ctx

/-- The document that the draft stands for, which keeps its members in the order of their
names, and of two with one name the later. -/
def document (ctx : Context) (d : Draft) : Json := d.fill Assoc.ofList ctx

mutual

/-- The names in the placeholders of a draft. -/
def names : Draft → List String
  | hole name => [name]
  | atom _ _ => []
  | array items => namesItems items
  | object members => namesMembers members

/-- The names in elements. -/
def namesItems : List Draft → List String
  | [] => []
  | d :: ds => names d ++ namesItems ds

/-- The names in members. -/
def namesMembers : List (String × Draft) → List String
  | [] => []
  | (_, d) :: ms => names d ++ namesMembers ms

end

mutual

/-- The strings of a draft, with the names of its members. -/
def strings : Draft → List String
  | hole _ => []
  | atom (.string s) _ => [s]
  | atom _ _ => []
  | array items => stringsItems items
  | object members => stringsMembers members

/-- The strings in elements. -/
def stringsItems : List Draft → List String
  | [] => []
  | d :: ds => strings d ++ stringsItems ds

/-- The strings in members. -/
def stringsMembers : List (String × Draft) → List String
  | [] => []
  | (name, d) :: ms => name :: (strings d ++ stringsMembers ms)

end

end Draft

/-! ## where no brace is -/

namespace Json

theorem not_mem_escapeChar {c : Char} (h : c ≠ '\x7b') : '\x7b' ∉ escapeChar c := by
  have hhex : ∀ n < 16, Text.lowerHex n ≠ '\x7b' := by decide
  by_cases hcontrol : c.toNat < 0x20
  · have hhigh := hhex (c.toNat / 16) (by omega)
    have hlow := hhex (c.toNat % 16) (by omega)
    unfold escapeChar
    rw [if_pos hcontrol]
    repeat' split
    all_goals first | decide | simp [hhigh.symm, hlow.symm]
  · unfold escapeChar
    rw [if_neg hcontrol]
    repeat' split
    all_goals first | decide | simpa using h.symm

theorem not_mem_quote {s : String} (h : '\x7b' ∉ s.toList) : '\x7b' ∉ quote s := by
  intro hmem
  simp only [quote, List.mem_cons, List.mem_append, List.mem_flatMap, List.not_mem_nil,
    or_false] at hmem
  rcases hmem with hquote | ⟨c, hc, hmem⟩ | hquote
  · exact absurd hquote (by decide)
  · refine not_mem_escapeChar ?_ hmem
    rintro rfl
    exact h hc
  · exact absurd hquote (by decide)

/-- Values without others in them are written without a brace, strings with one apart. -/
theorem not_mem_toChars_of_isAtom {v : Json} (h : v.isAtom = true)
    (hstring : ∀ s, v = .string s → '\x7b' ∉ s.toList) : '\x7b' ∉ v.toChars := by
  cases v with
  | null => decide
  | bool b => cases b <;> decide
  | integer n =>
    intro hmem
    exact absurd ((Text.numeral_signedDecimal n.val).isDigit_or_sign hmem) (by decide)
  | float x =>
    intro hmem
    exact absurd (Decimal.isFloatChar_of_mem_documentForm hmem) (by decide)
  | string s => exact not_mem_quote (hstring s rfl)
  | array items => cases h
  | object members => cases h

end Json

/-! ## substitution -/

namespace Draft

theorem membersToChars_eq_cons (m : String × Draft) (ms : List (String × Draft)) :
    ∃ cs, membersToChars (m :: ms) = '"' :: cs := by
  obtain ⟨name, d⟩ := m
  cases ms <;> exact ⟨_, rfl⟩

variable {ctx : Context}

theorem becomes_quote {name : String} (h : '\x7b' ∉ name.toList) {cs out : List Char}
    (hrest : Becomes ctx cs out) :
    Becomes ctx (Json.quote name ++ ':' :: cs) (Json.quote name ++ ':' :: out) :=
  (Becomes.of_not_mem ctx (Json.not_mem_quote h)).append (hrest.cons (by decide))

/-- The braces of objects are not read as those of placeholders. -/
theorem becomes_object {cs out : List Char} (h : Becomes ctx cs out)
    (hcs : cs = [] ∨ ∃ more, cs = '"' :: more) :
    Becomes ctx ('\x7b' :: (cs ++ ['\x7d'])) ('\x7b' :: (out ++ ['\x7d'])) := by
  have hend : Becomes ctx ['\x7d'] ['\x7d'] := .of_not_mem ctx (by decide)
  have hclose := h.append hend
  rcases hcs with rfl | ⟨more, rfl⟩
  · exact hclose.brace (by decide)
  · exact hclose.brace (by decide)

theorem becomes_hole {name : String} {v : Json} (hname : IsName name)
    (hget : ctx.get? name = some v) (hv : ∀ s, v ≠ .string s) :
    Becomes ctx (written name) v.toChars := by
  have htext : v.text.toList = v.toChars := by
    cases v with
    | string s => exact absurd rfl (hv s)
    | _ => exact String.toList_ofList
  rw [← htext]
  exact .written hname (by rw [Context.text?, hget]; rfl)

/-- The names of a draft are bound to values that are no strings. -/
def Bound (ctx : Context) (name : String) : Prop :=
  IsName name ∧ ∃ v, ctx.get? name = some v ∧ ∀ s, v ≠ .string s

mutual

/-- Substitution makes the text of a draft that of the document with the values in it. -/
theorem becomes_toChars : ∀ d : Draft, (∀ name ∈ d.names, Bound ctx name) →
    (∀ s ∈ d.strings, '\x7b' ∉ s.toList) → Becomes ctx d.toChars (d.fill id ctx).toChars
  | .hole name, hnames, _ => by
    obtain ⟨hname, v, hget, hv⟩ := hnames name List.mem_cons_self
    rw [toChars, fill, hget]
    exact becomes_hole hname hget hv
  | .atom v h, _, hstrings => .of_not_mem ctx (Json.not_mem_toChars_of_isAtom h (by
      rintro s rfl
      exact hstrings s List.mem_cons_self))
  | .array items, hnames, hstrings =>
    ((becomes_itemsToChars items hnames hstrings).append
      (.of_not_mem ctx (by decide))).cons (by decide)
  | .object members, hnames, hstrings =>
    becomes_object (becomes_membersToChars members hnames hstrings) (by
      cases members with
      | nil => exact .inl rfl
      | cons m ms => exact .inr (membersToChars_eq_cons m ms))

theorem becomes_itemsToChars : ∀ ds : List Draft, (∀ name ∈ namesItems ds, Bound ctx name) →
    (∀ s ∈ stringsItems ds, '\x7b' ∉ s.toList) →
      Becomes ctx (itemsToChars ds) (Json.itemsToChars (fillItems id ctx ds))
  | [], _, _ => .of_not_mem ctx (by decide)
  | [d], hnames, hstrings => by
    rw [namesItems, List.forall_mem_append] at hnames
    rw [stringsItems, List.forall_mem_append] at hstrings
    exact becomes_toChars d hnames.1 hstrings.1
  | d :: e :: ds, hnames, hstrings => by
    rw [namesItems, List.forall_mem_append] at hnames
    rw [stringsItems, List.forall_mem_append] at hstrings
    exact (becomes_toChars d hnames.1 hstrings.1).append
      ((becomes_itemsToChars (e :: ds) hnames.2 hstrings.2).cons (by decide))

theorem becomes_membersToChars : ∀ ms : List (String × Draft),
    (∀ name ∈ namesMembers ms, Bound ctx name) →
    (∀ s ∈ stringsMembers ms, '\x7b' ∉ s.toList) →
      Becomes ctx (membersToChars ms) (Json.membersToChars (fillMembers id ctx ms))
  | [], _, _ => .of_not_mem ctx (by decide)
  | [(name, d)], hnames, hstrings => by
    rw [namesMembers, List.forall_mem_append] at hnames
    rw [stringsMembers, List.forall_mem_cons, List.forall_mem_append] at hstrings
    exact becomes_quote hstrings.1 (becomes_toChars d hnames.1 hstrings.2.1)
  | (name, d) :: m :: ms, hnames, hstrings => by
    rw [namesMembers, List.forall_mem_append] at hnames
    rw [stringsMembers, List.forall_mem_cons, List.forall_mem_append] at hstrings
    exact becomes_quote hstrings.1 ((becomes_toChars d hnames.1 hstrings.2.1).append
      ((becomes_membersToChars (m :: ms) hnames.2 hstrings.2.2).cons (by decide)))

end

mutual

/-- Where the values of the variables are as documents keep them, so is the whole, with the
members of the draft in the order of their names. -/
theorem normal_filled : ∀ d : Draft,
    (∀ name ∈ d.names, ∀ v, ctx.get? name = some v → v.normal = v) →
      (d.fill id ctx).normal = d.fill Assoc.ofList ctx
  | .hole name, hnames => by
    rw [fill, fill]
    cases hget : ctx.get? name with
    | none => rfl
    | some v => exact hnames name List.mem_cons_self v hget
  | .atom v h, _ => by
    cases v <;> first | rfl | cases h
  | .array items, hnames => by
    rw [fill, fill, Json.normal, normalItems_filled items hnames]
  | .object members, hnames => by
    rw [fill, fill, Json.normal, id, normalMembers_filled members hnames]

theorem normalItems_filled : ∀ ds : List Draft,
    (∀ name ∈ namesItems ds, ∀ v, ctx.get? name = some v → v.normal = v) →
      Json.normalItems (fillItems id ctx ds) = fillItems Assoc.ofList ctx ds
  | [], _ => rfl
  | d :: ds, hnames => by
    rw [namesItems, List.forall_mem_append] at hnames
    rw [fillItems, fillItems, Json.normalItems, normal_filled d hnames.1,
      normalItems_filled ds hnames.2]

theorem normalMembers_filled : ∀ ms : List (String × Draft),
    (∀ name ∈ namesMembers ms, ∀ v, ctx.get? name = some v → v.normal = v) →
      Json.normalMembers (fillMembers id ctx ms) = fillMembers Assoc.ofList ctx ms
  | [], _ => rfl
  | (name, d) :: ms, hnames => by
    rw [namesMembers, List.forall_mem_append] at hnames
    rw [fillMembers, fillMembers, Json.normalMembers, normal_filled d hnames.1,
      normalMembers_filled ms hnames.2]

end

end Draft

/-- Substitution keeps the types of JSON values.  A draft in whose strings and member names
no brace opens, written on one line, becomes a JSON text where each of its placeholders
names a variable whose value is no string; it is read as the document with these values in
their places, unchanged, as long as it does not nest too deep and all its floats are read
back from the forms in which they are written.  Values are as documents keep them
(`Json.normal`), as is whatever is read from a text (`Json.kept_of_read?`). -/
theorem substitute_draft (d : Draft) (ctx : Context) (draws : Draws)
    (hnames : ∀ name ∈ d.names, IsName name ∧ ∃ v, ctx.get? name = some v ∧
      (∀ s, v ≠ .string s) ∧ v.normal = v)
    (hstrings : ∀ s ∈ d.strings, '\x7b' ∉ s.toList)
    (hdepth : (d.filled ctx).depth ≤ Json.depthLimit)
    (hfloats : ∀ x ∈ (d.filled ctx).floats, Json.ReadsBack x) :
    substitute .plain ctx (String.ofList d.toChars) draws = ((d.filled ctx).write, draws) ∧
      Json.read? (d.filled ctx).write = some (d.document ctx) := by
  have hbound : ∀ name ∈ d.names, Draft.Bound ctx name := fun name hname => by
    obtain ⟨hvalid, v, hget, hv, -⟩ := hnames name hname
    exact ⟨hvalid, v, hget, hv⟩
  have hnormal : ∀ name ∈ d.names, ∀ v, ctx.get? name = some v → v.normal = v := by
    intro name hname v hv
    obtain ⟨-, w, hw, -, hkept⟩ := hnames name hname
    rwa [Option.some.inj (hw.symm.trans hv)] at hkept
  refine ⟨(Draft.becomes_toChars d hbound hstrings).substitute_eq draws, ?_⟩
  rw [Json.read?_write hdepth hfloats]
  exact congrArg some (Draft.normal_filled d hnormal)

/-- One and a half. -/
def oneAndAHalf : Binary64 := ⟨false, 0x3FF8000000000000, by decide⟩

/-- A draft of an order, whose item stands between the braces of objects. -/
def orderDraft : Draft :=
  .object [("order", .object [("item", .hole "item")]),
    ("factors", .array [.hole "count", .atom (.float oneAndAHalf) rfl])]

/-- An item with braces in a string of its own, and a count. -/
def orderValues : Context :=
  (Dict.empty.insert "item" (.object [("name", .string "\x7b\x7bcount\x7d\x7d")])).insert "count"
    (.integer ⟨3, by decide⟩)

/-- The item stays an object, and the count a number; the braces in the string stay. -/
theorem substitute_draft_order :
    String.ofList orderDraft.toChars =
      "\x7b\"order\":\x7b\"item\":\x7b\x7bitem\x7d\x7d\x7d,\"factors\":[\x7b\x7bcount\x7d\x7d,1.5]\x7d" ∧
    (∀ name ∈ orderDraft.names, IsName name ∧ ∃ v, orderValues.get? name = some v ∧
      (∀ s, v ≠ .string s) ∧ v.normal = v) ∧
    (∀ s ∈ orderDraft.strings, '\x7b' ∉ s.toList) ∧
    (orderDraft.filled orderValues).depth ≤ Json.depthLimit ∧
    (∀ x ∈ (orderDraft.filled orderValues).floats, Json.ReadsBack x) ∧
    substitute .plain orderValues (String.ofList orderDraft.toChars) ⟨id, id, 0⟩ =
      ((orderDraft.filled orderValues).write, ⟨id, id, 0⟩) ∧
    Json.read? (orderDraft.filled orderValues).write = some (.object
      [("factors", .array [.integer ⟨3, by decide⟩, .float oneAndAHalf]),
        ("order", .object [("item", .object [("name", .string "\x7b\x7bcount\x7d\x7d")])])]) := by
  have htext : String.ofList orderDraft.toChars =
      "\x7b\"order\":\x7b\"item\":\x7b\x7bitem\x7d\x7d\x7d,\"factors\":[\x7b\x7bcount\x7d\x7d,1.5]\x7d" := by
    decide +kernel
  have hnames : ∀ name ∈ orderDraft.names, IsName name ∧ ∃ v, orderValues.get? name = some v ∧
      (∀ s, v ≠ .string s) ∧ v.normal = v :=
    List.forall_mem_cons.2 ⟨⟨by decide, _, rfl, nofun, rfl⟩,
      List.forall_mem_singleton.2 ⟨by decide, _, rfl, nofun, rfl⟩⟩
  have hstrings : ∀ s ∈ orderDraft.strings, '\x7b' ∉ s.toList := by decide
  have hfloats : ∀ x ∈ (orderDraft.filled orderValues).floats, Json.ReadsBack x := by
    decide +kernel
  have hdepth : (orderDraft.filled orderValues).depth ≤ Json.depthLimit := by decide
  obtain ⟨hsubstitute, hread⟩ :=
    substitute_draft orderDraft orderValues ⟨id, id, 0⟩ hnames hstrings hdepth hfloats
  exact ⟨htext, hnames, hstrings, hdepth, hfloats, hsubstitute, hread⟩

end HttpChain
