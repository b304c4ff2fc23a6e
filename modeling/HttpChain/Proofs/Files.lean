import HttpChain.Files
import Mathlib.Tactic.SplitIfs

/-!
# HttpChain.Proofs.Files

What is written to a path is read there.  Putting a file at a place changes
nothing about the ways through the tree, as no way leads on from a place that
is not a directory.
-/

namespace HttpChain

namespace FileTree

variable {t t' : FileTree} {p q r : Place} {n : Node}

/-! ## nodes -/

/-- The root is a directory. -/
theorem node?_nil (t : FileTree) : t.node? [] = some .directory := if_pos rfl

theorem node?_ne_directory {content : List UInt8} (h : t.node? p = some (.file content)) :
    t.node? p ≠ some .directory := by
  rw [h]
  nofun

theorem ne_nil_of_node? (h : t.node? p ≠ some .directory) : p ≠ [] := by
  rintro rfl
  exact h t.node?_nil

/-- What is put at a place stands there. -/
theorem node?_set_self (hp : p ≠ []) : (t.set p n).node? p = some n := by
  simp [node?, set, hp]

/-- What is put at a place changes no other one. -/
theorem node?_set_of_ne (h : q ≠ p) : (t.set p n).node? q = t.node? q := by
  rw [node?, node?]
  split_ifs
  · rfl
  · rw [set, List.find?_cons_of_neg (by simpa using Ne.symm h), List.find?_filter]
    refine congrArg (Option.map Prod.snd) (congrArg (List.find? · t.nodes) (funext fun m => ?_))
    by_cases hm : m.1 = q <;> simp [hm, h]

/-! ## ways -/

/-- A part of a way leads on from directories only. -/
theorem isDirectory_of_step {part : List Char} (h : t.step q part = .ok r) :
    t.node? q = some .directory := by
  rw [step] at h
  split at h
  · cases h
  · cases h
  · next hdirectory => exact hdirectory

/-- A step leads where it led, once something is put where no directory is. -/
theorem step_set (h : t.node? p ≠ some .directory) {part : List Char}
    (hstep : t.step q part = .ok r) : (t.set p n).step q part = .ok r := by
  have hq : q ≠ p := by
    rintro rfl
    exact h (isDirectory_of_step hstep)
  rw [step, node?_set_of_ne hq]
  exact hstep

theorem foldlM_cons {parts : List (List Char)} {part : List Char} :
    (part :: parts).foldlM t.step p = .ok q ↔
      ∃ r, t.step p part = .ok r ∧ parts.foldlM t.step r = .ok q := by
  rw [List.foldlM_cons]
  cases t.step p part <;> simp [bind, Except.bind]

/-- A way leads where it led, once something is put where no directory is. -/
theorem foldlM_step_set (h : t.node? p ≠ some .directory) {parts : List (List Char)}
    {start : Place} (hway : parts.foldlM t.step start = .ok q) :
    parts.foldlM (t.set p n).step start = .ok q := by
  induction parts generalizing start with
  | nil => exact hway
  | cons part parts ih =>
    obtain ⟨next, hstep, hway⟩ := foldlM_cons.1 hway
    exact foldlM_cons.2 ⟨next, step_set h hstep, ih hway⟩

/-- A path leads where it led, once something is put where no directory is. -/
theorem place?_set (h : t.node? p ≠ some .directory) {path : String}
    (hplace : t.place? path = .ok q) : (t.set p n).place? path = .ok q := by
  rw [place?] at hplace ⊢
  split_ifs at hplace ⊢
  split at hplace
  · cases hplace
  · exact foldlM_step_set h hplace
  · exact foldlM_step_set h hplace

/-! ## files -/

/-- What is read is the content of the file that a path leads to. -/
theorem read_eq_ok_iff {path : String} {content : List UInt8} : t.read path = .ok content ↔
    ∃ p, t.place? path = .ok p ∧ t.node? p = some (.file content) := by
  rw [read]
  cases t.place? path with
  | error f => simp [bind, Except.bind]
  | ok p =>
    simp only [bind, Except.bind, Except.ok.injEq, exists_eq_left']
    split <;> simp_all [pure, Except.pure, throw, throwThe, MonadExceptOf.throw]

/-- There is a file at a path if the path leads to one. -/
theorem isFile_iff {path : String} : t.isFile path = true ↔
    ∃ p content, t.place? path = .ok p ∧ t.node? p = some (.file content) := by
  have hread : t.isFile path = true ↔ ∃ content, t.read path = .ok content := by
    rw [isFile]
    cases t.read path <;> simp
  simp only [hread, read_eq_ok_iff]
  exact exists_comm

/-- A file is written at the place that its path leads to, where there is no directory. -/
theorem exists_of_write {path : String} {content : List UInt8}
    (h : t.write path content = .ok t') : ∃ p, t.place? path = .ok p ∧
      t.node? p ≠ some .directory ∧ t' = t.set p (.file content) := by
  rw [write] at h
  split_ifs at h
  · split at h <;> cases h
  · cases hplace : t.place? path with
    | error f =>
      rw [hplace] at h
      cases h
    | ok p =>
      rw [hplace] at h
      change (if t.node? p = some .directory then _ else _) = _ at h
      split_ifs at h with hdirectory
      cases h
      exact ⟨p, rfl, hdirectory, rfl⟩

/-- A file that is written holds what was written. -/
theorem read_write {path : String} {content : List UInt8} (h : t.write path content = .ok t') :
    t'.read path = .ok content := by
  obtain ⟨p, hplace, hdirectory, rfl⟩ := exists_of_write h
  exact read_eq_ok_iff.2
    ⟨p, place?_set hdirectory hplace, node?_set_self (ne_nil_of_node? hdirectory)⟩

/-- A text that is written is read. -/
theorem readText_write {path s : String} (h : t.write path (Text.bytes s) = .ok t') :
    t'.readText path = .ok s := by
  simp only [readText, read_write h, bind, Except.bind, Text.decode?_bytes]
  rfl

end FileTree

end HttpChain
