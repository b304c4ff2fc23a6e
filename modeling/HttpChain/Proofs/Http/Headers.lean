import HttpChain.Proofs.Writes
import HttpChain.Resolve
import Mathlib.Data.List.Induction

/-!
# HttpChain.Proofs.Http.Headers

Headers that are written one after the other.  A header is read as it was last
written, under whatever spelling of its name (`get?_writeAll`), and a list that is
written from nothing holds exactly the writes that no later one overrides, in their
order (`writeAll_nil`).  No name comes twice in it (`Distinct.writeAll`).
-/

namespace HttpChain

/-- Names are the same if they are so up to ASCII case. -/
theorem Text.sameName_iff {a b : String} :
    Text.sameName a b = true ↔ Text.foldCase a.toList = Text.foldCase b.toList := beq_iff_eq

theorem Text.sameName_symm {a b : String} (h : Text.sameName a b = true) :
    Text.sameName b a = true := Text.sameName_iff.2 (Text.sameName_iff.1 h).symm

theorem Text.sameName_comm (a b : String) : Text.sameName a b = Text.sameName b a :=
  Bool.eq_iff_iff.2 ⟨Text.sameName_symm, Text.sameName_symm⟩

theorem Text.sameName_trans {a b c : String} (hab : Text.sameName a b = true)
    (hbc : Text.sameName b c = true) : Text.sameName a c = true :=
  Text.sameName_iff.2 ((Text.sameName_iff.1 hab).trans (Text.sameName_iff.1 hbc))

namespace HeaderList

open Text

/-- A header that is set has its value under every spelling of its name, and the others keep
theirs. -/
theorem get?_set (headers : HeaderList) (name value other : String) :
    (headers.set name value).get? other =
      if sameName name other then some value else headers.get? other := by
  rw [get?, get?, set, List.find?_append, List.find?_filter]
  by_cases h : sameName name other = true
  · -- whatever had the name is gone
    have hnone : headers.find? (fun e => !sameName e.1 name && sameName e.1 other) = none := by
      rw [List.find?_eq_none]
      intro e _ he
      rw [Bool.and_eq_true, Bool.not_eq_true'] at he
      rw [sameName_trans he.2 (sameName_symm h)] at he
      cases he.1
    simp [hnone, h]
  · -- nothing with the other name is
    have hsame : (fun e : String × String => !sameName e.1 name && sameName e.1 other) =
        fun e => sameName e.1 other := by
      funext e
      by_cases he : sameName e.1 other = true
      · have hname : sameName e.1 name = false := by
          by_contra hname
          exact h (sameName_trans (sameName_symm (by simpa using hname)) he)
        rw [he, hname]
        rfl
      · simp [he]
    simp [hsame, h]

/-- Write headers, each over the ones before it. -/
def writeAll (headers : HeaderList) (writes : List (String × String)) : HeaderList :=
  writes.foldl (fun hs w => hs.set w.1 w.2) headers

theorem writeAll_append (headers : HeaderList) (ws vs : List (String × String)) :
    headers.writeAll (ws ++ vs) = (headers.writeAll ws).writeAll vs := List.foldl_append

/-- A header is read as it was last written. -/
theorem get?_writeAll (headers : HeaderList) (writes : List (String × String)) (name : String) :
    (headers.writeAll writes).get? name =
      (lastWrite? (sameName · name) writes).or (headers.get? name) :=
  get_foldl (fun hs : HeaderList => hs.get? name) (fun hs w => hs.get?_set w.1 w.2 name)
    writes headers

/-- To set lines is to write the headers that they set. -/
theorem setLines_eq (headers : HeaderList) (lines : List String) :
    headers.setLines lines = headers.writeAll (lines.filterMap line?) := by
  rw [setLines, writeAll, List.foldl_filterMap]
  congr 1
  funext hs l
  rw [setLine?]
  cases line? l <;> rfl

/-- The writes that no later one overrides. -/
def lasting : List (String × String) → HeaderList
  | [] => []
  | w :: ws => if ws.any (fun e => sameName e.1 w.1) then lasting ws else w :: lasting ws

/-- The writes that last are some of them, in their order. -/
theorem lasting_sublist (ws : List (String × String)) : (lasting ws).Sublist ws := by
  induction ws with
  | nil => exact .slnil
  | cons w ws ih =>
    rw [lasting]
    split
    · exact ih.cons w
    · exact ih.cons_cons w

/-- A further write lasts, behind all those that it does not override. -/
theorem lasting_append_singleton (ws : List (String × String)) (w : String × String) :
    lasting (ws ++ [w]) = (lasting ws).set w.1 w.2 := by
  induction ws with
  | nil => rfl
  | cons e ws ih =>
    rw [List.cons_append, lasting, lasting, ih, List.any_append]
    by_cases hlater : (ws.any fun d => sameName d.1 e.1) = true
    · simp [hlater]
    · rw [if_neg hlater, set, set, List.filter_cons, sameName_comm e.1 w.1]
      by_cases hw : sameName w.1 e.1 = true
      · simp [hw]
      · simp [hlater, hw]

/-- A list that is written from nothing. -/
theorem writeAll_nil (writes : List (String × String)) :
    writeAll [] writes = lasting writes := by
  induction writes using List.reverseRecOn with
  | nil => rfl
  | append_singleton ws w ih =>
    rw [lasting_append_singleton, ← ih, writeAll_append]
    rfl

/-- Which writes last is decided by their names. -/
theorem lasting_map (f : String → String) (writes : List (String × String)) :
    lasting (writes.map fun w => (w.1, f w.2)) = (lasting writes).map fun w => (w.1, f w.2) := by
  induction writes with
  | nil => rfl
  | cons w ws ih =>
    rw [List.map_cons, lasting, lasting, ih, List.any_map]
    simp only [Function.comp_def]
    split <;> rfl

/-! ## names -/

/-- No name comes twice, whatever its spelling. -/
def Distinct (headers : HeaderList) : Prop :=
  headers.Pairwise fun a b => sameName a.1 b.1 = false

/-- To set a header keeps names distinct. -/
theorem Distinct.set {headers : HeaderList} (h : headers.Distinct) (name value : String) :
    (headers.set name value).Distinct := by
  refine List.pairwise_append.2 ⟨h.filter _, List.pairwise_singleton _ _, ?_⟩
  intro kept hkept written hwritten
  obtain rfl := List.mem_singleton.1 hwritten
  simpa using (List.mem_filter.1 hkept).2

/-- To write any number of headers keeps names distinct. -/
theorem Distinct.writeAll {headers : HeaderList} (h : headers.Distinct)
    (writes : List (String × String)) : (headers.writeAll writes).Distinct := by
  induction writes generalizing headers with
  | nil => exact h
  | cons w ws ih => exact ih (h.set w.1 w.2)

/-- Where no name comes twice, every header is the one that is read under its name. -/
theorem Distinct.get?_of_mem {headers : HeaderList} (h : headers.Distinct)
    {name value : String} (hmem : (name, value) ∈ headers) :
    headers.get? name = some value := by
  induction headers with
  | nil => cases hmem
  | cons e rest ih =>
    obtain ⟨hfirst, hrest⟩ := List.pairwise_cons.1 h
    rw [get?, List.find?_cons]
    rcases List.mem_cons.1 hmem with rfl | hmem
    · rw [sameName_iff.2 rfl]
      rfl
    · rw [hfirst _ hmem]
      exact ih hrest hmem

end HeaderList

end HttpChain
