import HttpChain.Assoc

/-!
# HttpChain.Dict

Maps from names, kept as association lists whose order is part of the type, so
that two maps with the same entries are equal.
-/

namespace HttpChain

/-- A map with its keys in order. -/
structure Dict (α : Type) where
  entries : Assoc α
  ascending : entries.Ascending

namespace Dict

variable {α : Type}

@[ext] theorem ext {a b : Dict α} (h : a.entries = b.entries) : a = b := by
  cases a; cases b; congr

instance [DecidableEq α] : DecidableEq (Dict α) := fun a b =>
  decidable_of_iff (a.entries = b.entries) ⟨ext, fun h => h ▸ rfl⟩

/-- The map without entries. -/
def empty : Dict α := ⟨[], Assoc.ascending_nil⟩

instance : EmptyCollection (Dict α) := ⟨empty⟩

instance : Inhabited (Dict α) := ⟨empty⟩

/-- The value at a key. -/
def get? (d : Dict α) (key : String) : Option α := d.entries.find? key

/-- Write a value at a key. -/
def insert (d : Dict α) (key : String) (value : α) : Dict α :=
  ⟨d.entries.insert key value, d.ascending.insert key value⟩

/-- Write each entry in turn. -/
def insertAll (d : Dict α) (entries : List (String × α)) : Dict α :=
  ⟨Assoc.insertAll entries d.entries, d.ascending.insertAll entries⟩

/-- The map of a list of entries, the last of each key. -/
def ofList (entries : List (String × α)) : Dict α := (empty : Dict α).insertAll entries

/-- The keys, in order. -/
def keys (d : Dict α) : List String := d.entries.keys

/-- The entries, in the order of their keys. -/
def toList (d : Dict α) : List (String × α) := d.entries

/-- A map that has no entry. -/
def isEmpty (d : Dict α) : Bool := d.entries.isEmpty

@[simp] theorem isEmpty_empty : ({} : Dict α).isEmpty = true := rfl

theorem eq_empty_of_isEmpty {d : Dict α} (h : d.isEmpty = true) : d = {} :=
  ext (List.isEmpty_iff.1 h)

theorem get?_insert (d : Dict α) (key key' : String) (value : α) :
    (d.insert key value).get? key' = if key = key' then some value else d.get? key' :=
  Assoc.find?_insert key key' value d.entries

theorem get?_eq_some_iff {d : Dict α} {key : String} {value : α} :
    d.get? key = some value ↔ (key, value) ∈ d.toList := d.ascending.find?_eq_some_iff

theorem eq_of_get? {a b : Dict α} (h : ∀ key, a.get? key = b.get? key) : a = b :=
  ext (a.ascending.eq_of_find? b.ascending h)

@[simp] theorem insertAll_nil (d : Dict α) : d.insertAll [] = d := rfl

theorem insertAll_cons (d : Dict α) (e : String × α) (entries : List (String × α)) :
    d.insertAll (e :: entries) = (d.insert e.1 e.2).insertAll entries := rfl

theorem insertAll_append (d : Dict α) (xs ys : List (String × α)) :
    d.insertAll (xs ++ ys) = (d.insertAll xs).insertAll ys := by
  induction xs generalizing d with
  | nil => rfl
  | cons e xs ih => rw [List.cons_append, insertAll_cons, insertAll_cons, ih]

/-- Writing entries removes none. -/
theorem isSome_get?_insertAll {d : Dict α} {key : String} (h : (d.get? key).isSome = true)
    (entries : List (String × α)) : ((d.insertAll entries).get? key).isSome = true := by
  induction entries generalizing d with
  | nil => exact h
  | cons e entries ih =>
    rw [insertAll_cons]
    apply ih
    rw [get?_insert]
    split
    · rfl
    · exact h

theorem ofList_of_perm {d : Dict α} {entries : List (String × α)} (h : entries.Perm d.toList) :
    ofList entries = d :=
  ext (Assoc.ofList_of_perm d.ascending h)

end Dict

end HttpChain
