/-!
# HttpChain.Variable.Template

Text with references in it.  A grammar recognises a reference at the front of
a text and says how long it is; `parts` walks a text from the left and takes
the first reference it meets, then goes on behind it, so references never
overlap.  Expansion replaces each reference once, or leaves it as written, and
never looks at what it has put in.
-/

namespace HttpChain.Template

/-- A reference at the front of a text, with the number of characters it takes
beyond the first. -/
abbrev Grammar (α : Type) := List Char → Option (α × Nat)

/-- A part of a text: a character that stands for itself, or a reference with
the text that writes it. -/
inductive Part (α : Type) where
  | char (c : Char)
  | ref (target : α) (written : List Char)

variable {α : Type}

/-- The text that writes a part. -/
def Part.source : Part α → List Char
  | char c => [c]
  | ref _ written => written

/-- Split a text into parts, skipping the given number of characters first. -/
def partsFrom (g : Grammar α) : Nat → List Char → List (Part α)
  | _, [] => []
  | skip + 1, _ :: cs => partsFrom g skip cs
  | 0, c :: cs =>
    match g (c :: cs) with
    | some (a, more) => .ref a (c :: cs.take more) :: partsFrom g more cs
    | none => .char c :: partsFrom g 0 cs

/-- The parts of a text, from the left. -/
def parts (g : Grammar α) (cs : List Char) : List (Part α) := partsFrom g 0 cs

/-- The targets that a text refers to, in order. -/
def targets (g : Grammar α) (cs : List Char) : List α :=
  (parts g cs).filterMap fun
    | .char _ => none
    | .ref a _ => some a

/-- Put values in the places of references; a reference without a value stays
as written. -/
def fill (value : α → Option (List Char)) (ps : List (Part α)) : List Char :=
  ps.flatMap fun
    | .char c => [c]
    | .ref a written => (value a).getD written

/-- Replace the references of a text. -/
def expand (g : Grammar α) (value : α → Option (List Char)) (cs : List Char) : List Char :=
  fill value (parts g cs)

theorem partsFrom_eq_drop (g : Grammar α) (n : Nat) (cs : List Char) :
    partsFrom g n cs = partsFrom g 0 (cs.drop n) := by
  induction cs generalizing n with
  | nil => cases n <;> rfl
  | cons c cs ih => cases n with
    | zero => rfl
    | succ n => simpa [partsFrom] using ih n

/-- Nothing of a text is lost or moved by splitting it. -/
theorem flatMap_source_parts (g : Grammar α) (cs : List Char) :
    (parts g cs).flatMap Part.source = cs := by
  suffices h : ∀ n cs, (partsFrom g n cs).flatMap Part.source = cs.drop n from h 0 cs
  intro n cs
  induction cs generalizing n with
  | nil => cases n <;> rfl
  | cons c cs ih =>
    cases n with
    | succ n => simpa [partsFrom] using ih n
    | zero =>
      rw [partsFrom]
      split
      · next a more _ => simp [Part.source, ih more, List.take_append_drop]
      · simp [Part.source, ih 0]

end HttpChain.Template
