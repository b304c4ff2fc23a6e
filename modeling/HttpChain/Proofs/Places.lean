import HttpChain.Proofs.Paths
import Mathlib.Data.List.Infix
import Mathlib.Tactic.MkIffOfInductiveProp

/-!
# HttpChain.Proofs.Places

Places and their paths.  Going up from a path ends, as each path above another one is
shorter (`length_lt_of_parent?`), so the fuel of `Path.ancestors` never runs out.

`FileTree.WellFormed` says of a tree what every file system keeps to: whatever stands
somewhere has a directory above it and a name that paths can spell.  Then a path below that
of a directory leads on from the directory (`place?_join_ofPlace`), and what is above the
path is above the place (`upwards_ofPlace`).  Each operation that writes keeps a tree
well-formed (`FileTree.Written`).
-/

namespace HttpChain

namespace Path

/-! ## going up -/

theorem intercalate_concat {ps : List (List Char)} (hne : ps ≠ []) (p : List Char) :
    ['/'].intercalate (ps ++ [p]) = ['/'].intercalate ps ++ '/' :: p := by
  induction ps with
  | nil => exact absurd rfl hne
  | cons q qs ih =>
    cases qs with
    | nil => simp
    | cons r rs =>
      have hne' : r :: rs ++ [p] ≠ [] := by simp
      rw [List.cons_append, List.intercalate_cons_of_ne_nil hne', ih (List.cons_ne_nil _ _),
        List.intercalate_cons_cons]
      simp only [List.append_assoc]

/-- The text of parts is longer than that of the parts ahead of one that is not empty. -/
theorem length_intercalate_lt {ps qs : List (List Char)} {p : List Char} (hp : p ≠ [])
    (h : qs <+: ps) :
    (['/'].intercalate qs).length < (['/'].intercalate (ps ++ [p])).length := by
  have hprefix : ['/'].intercalate qs <+: ['/'].intercalate ps := intercalate_prefix h
  have hle := hprefix.length_le
  have hpos := List.length_pos_iff.2 hp
  by_cases hne : ps = []
  · subst hne
    obtain rfl := List.prefix_nil.1 h
    simpa using hpos
  · rw [intercalate_concat hne, List.length_append, List.length_cons]
    omega

theorem trimBack_prefix (ps : List (List Char)) : trimBack ps <+: ps := List.rdropWhile_prefix _ _

/-- Parts that are left by trimming end in one that is not blank. -/
theorem exists_concat_of_trimBack {ps : List (List Char)} (h : trimBack ps ≠ []) :
    ∃ front p, trimBack ps = front ++ [p] ∧ p ≠ [] ∧ trimBack (trimBack ps).dropLast <+: front := by
  have hlast := List.rdropWhile_last_not (fun p => p = [] || p = ['.']) ps h
  rw [Bool.or_eq_true, not_or] at hlast
  refine ⟨_, _, (List.dropLast_append_getLast h).symm, ?_, trimBack_prefix _⟩
  exact fun hnil => hlast.1 (decide_eq_true hnil)

/-- The path above another one is made of parts ahead of one that is not empty. -/
theorem exists_of_parent? {path above : String} (h : parent? path = some above) :
    ∃ lead body front p qs, path.toList = lead ++ body ∧ front ++ [p] <+: parts body ∧ p ≠ [] ∧
      qs <+: front ∧ above.toList = lead ++ ['/'].intercalate qs := by
  rw [parent?] at h
  split at h
  · next body hbody =>
    split at h
    · cases h
    · next hne =>
      obtain rfl := Option.some.inj h
      obtain ⟨front, p, htrim, hp, hqs⟩ := exists_concat_of_trimBack hne
      exact ⟨['/'], body, front, p, _, hbody, htrim ▸ trimBack_prefix _, hp, hqs, by simp⟩
  · split at h
    · next rest hparts =>
      split at h
      · obtain rfl := Option.some.inj h
        refine ⟨[], path.toList, [], ['.'], [], rfl, ?_, by decide, List.prefix_refl _, rfl⟩
        rw [hparts]
        exact List.prefix_append [['.']] _
      · next hne =>
        obtain rfl := Option.some.inj h
        obtain ⟨front, p, htrim, hp, hqs⟩ := exists_concat_of_trimBack hne
        refine ⟨[], path.toList, ['.'] :: front, p, ['.'] :: _, rfl, ?_, hp,
          List.cons_prefix_cons.2 ⟨rfl, hqs⟩, by simp⟩
        rw [hparts, List.cons_append, List.cons_prefix_cons, ← htrim]
        exact ⟨rfl, trimBack_prefix _⟩
    · split at h
      · cases h
      · next hne =>
        obtain rfl := Option.some.inj h
        obtain ⟨front, p, htrim, hp, hqs⟩ := exists_concat_of_trimBack hne
        exact ⟨[], path.toList, front, p, _, rfl, htrim ▸ trimBack_prefix _, hp, hqs, by simp⟩

/-- Going up makes a path shorter. -/
theorem length_lt_of_parent? {path above : String} (h : parent? path = some above) :
    above.length < path.length := by
  obtain ⟨lead, body, front, p, qs, hpath, hparts, hp, hqs, habove⟩ := exists_of_parent? h
  have hprefix : ['/'].intercalate (front ++ [p]) <+: ['/'].intercalate (parts body) :=
    intercalate_prefix hparts
  have hbody := hprefix.length_le
  have hlt := length_intercalate_lt hp hqs
  rw [intercalate_parts] at hbody
  rw [← String.length_toList, ← String.length_toList, habove, hpath, List.length_append,
    List.length_append]
  omega

/-- The number of steps that a search is given does not matter, as long as a path is no
longer. -/
theorem ancestors_congr {m n : Nat} {path : String} (hm : path.length ≤ m)
    (hn : path.length ≤ n) : ancestors m path = ancestors n path := by
  induction m generalizing n path with
  | zero =>
    have hnone : parent? path = none := by
      rw [Option.eq_none_iff_forall_ne_some]
      intro above habove
      have := length_lt_of_parent? habove
      omega
    cases n <;> simp [ancestors, hnone]
  | succ m ih =>
    cases hparent : parent? path with
    | none => cases n <;> simp [ancestors, hparent]
    | some above =>
      have hlt := length_lt_of_parent? hparent
      obtain ⟨n, rfl⟩ : ∃ k, n = k + 1 := ⟨n - 1, by omega⟩
      rw [ancestors, ancestors, hparent]
      exact congrArg (path :: ·) (ih (by omega) (by omega))

theorem upwards_of_none {path : String} (h : parent? path = none) : upwards path = [path] := by
  rw [upwards, ancestors, h]

theorem upwards_of_some {path above : String} (h : parent? path = some above) :
    upwards path = path :: upwards above := by
  have hlt := length_lt_of_parent? h
  rw [upwards, ancestors, h]
  exact congrArg (path :: ·) (ancestors_congr (by omega) (by omega))

theorem exists_upwards (path : String) : ∃ rest, upwards path = path :: rest := by
  cases h : parent? path with
  | none => exact ⟨[], upwards_of_none h⟩
  | some above => exact ⟨_, upwards_of_some h⟩

/-- Induction from a path to those above it. -/
@[elab_as_elim]
theorem upwards_induction {motive : String → Prop}
    (top : ∀ path, parent? path = none → motive path)
    (up : ∀ path above, parent? path = some above → motive above → motive path)
    (path : String) : motive path :=
  match h : parent? path with
  | none => top path h
  | some above => up path above h (upwards_induction top up above)
termination_by path.length
decreasing_by exact length_lt_of_parent? h

/-- Each path on the way up is the one above the path ahead of it. -/
theorem isChain_upwards (path : String) :
    (upwards path).IsChain fun path above => parent? path = some above := by
  induction path using upwards_induction with
  | top path h => simp [upwards_of_none h]
  | up path above h ih =>
    obtain ⟨rest, hrest⟩ := exists_upwards above
    rw [upwards_of_some h, hrest, List.isChain_cons_cons, ← hrest]
    exact ⟨h, ih⟩

/-- The way up ends at a path that has none above it. -/
theorem parent?_getLast?_upwards (path : String) :
    ∃ top, (upwards path).getLast? = some top ∧ parent? top = none := by
  induction path using upwards_induction with
  | top path h => exact ⟨path, by simp [upwards_of_none h], h⟩
  | up path above h ih =>
    obtain ⟨rest, hrest⟩ := exists_upwards above
    obtain ⟨top, hlast, htop⟩ := ih
    exact ⟨top, by rw [upwards_of_some h, hrest, List.getLast?_cons_cons, ← hrest, hlast], htop⟩

theorem parts_append (cs ds : List Char) : parts (cs ++ '/' :: ds) = parts cs ++ parts ds := by
  simp only [parts, Text.splitAll_eq, List.splitOn_append_cons_self]

/-! ## names -/

/-- What a file or a directory can be called. -/
@[mk_iff]
structure IsFileName (name : String) : Prop where
  ne_nil : name.toList ≠ []
  not_slash : '/' ∉ name.toList
  not_nul : '\x00' ∉ name.toList
  ne_point : name.toList ≠ ['.']
  ne_points : name.toList ≠ ['.', '.']
  fits : (Text.utf8 name.toList).length ≤ 255

instance (name : String) : Decidable (IsFileName name) :=
  decidable_of_iff' _ (isFileName_iff name)

/-- The path of a place, from the root. -/
def ofPlace (p : Place) : String := "/" ++ "/".intercalate p

theorem toList_ofPlace (p : Place) :
    (ofPlace p).toList = '/' :: ['/'].intercalate (p.map String.toList) := by
  rw [ofPlace, String.toList_append, String.toList_intercalate]
  rfl

theorem ofPlace_ne_empty (p : Place) : ofPlace p ≠ "" := by
  intro h
  have hcs := toList_ofPlace p
  rw [h] at hcs
  cases hcs

/-- The characters of parts with slashes between them. -/
theorem eq_or_mem_of_mem_intercalate {ps : List (List Char)} {c : Char}
    (h : c ∈ ['/'].intercalate ps) : c = '/' ∨ ∃ p ∈ ps, c ∈ p := by
  induction ps with
  | nil => simp at h
  | cons p ps ih =>
    cases ps with
    | nil => exact .inr ⟨p, by simp, by simpa using h⟩
    | cons q qs =>
      rw [List.intercalate_cons_cons, List.mem_append, List.mem_append, List.mem_singleton] at h
      grind

section Names

variable {p : Place} (h : ∀ name ∈ p, IsFileName name)
include h

theorem parts_ofPlace (hne : p ≠ []) :
    parts (['/'].intercalate (p.map String.toList)) = p.map String.toList := by
  refine parts_intercalate (by simpa using hne) fun part hpart => ?_
  obtain ⟨name, hname, rfl⟩ := List.mem_map.1 hpart
  exact (h name hname).not_slash

theorem trimBack_names : trimBack (p.map String.toList) = p.map String.toList := by
  refine List.rdropWhile_eq_self_iff.2 fun hne => ?_
  obtain ⟨name, hname, hlast⟩ := List.mem_map.1 (List.getLast_mem hne)
  simp [← hlast, (h name hname).ne_nil, (h name hname).ne_point]

theorem nul_not_mem_ofPlace : '\x00' ∉ (ofPlace p).toList := by
  rw [toList_ofPlace, List.mem_cons, not_or]
  refine ⟨by decide, fun hmem => ?_⟩
  rcases eq_or_mem_of_mem_intercalate hmem with heq | ⟨part, hpart, hnul⟩
  · exact absurd heq (by decide)
  · obtain ⟨name, hname, rfl⟩ := List.mem_map.1 hpart
    exact (h name hname).not_nul hnul

theorem getLast?_ofPlace (hne : p ≠ []) : (ofPlace p).toList.getLast? ≠ some '/' := by
  induction p using List.reverseRecOn with
  | nil => exact absurd rfl hne
  | append_singleton p name =>
    have hname := h name (by simp)
    have hlast : (ofPlace (p ++ [name])).toList.getLast? = name.toList.getLast? := by
      rw [toList_ofPlace, List.map_append, List.map_singleton]
      obtain ⟨c, cs, hcs⟩ := List.exists_cons_of_ne_nil hname.ne_nil
      by_cases hp : p = []
      · simp [hp, hcs]
      · rw [intercalate_concat (by simpa using hp), hcs, ← List.cons_append, List.getLast?_append]
        simp [List.getLast?_cons]
    rw [hlast]
    exact fun hslash => hname.not_slash (List.mem_of_getLast? hslash)

/-- The path of a relative one below a place. -/
theorem toList_join_ofPlace {path : String} (hrelative : path.toList.head? ≠ some '/') :
    (join (ofPlace p) path).toList =
      '/' :: ['/'].intercalate (p.map String.toList ++ [path.toList]) := by
  have hnot : ¬(path.toList.head? = some '/' ∨ ofPlace p = "") :=
    not_or.2 ⟨hrelative, ofPlace_ne_empty p⟩
  rw [join, if_neg hnot]
  by_cases hp : p = []
  · subst hp
    simp [ofPlace]
  · rw [if_neg (getLast?_ofPlace h hp), intercalate_concat (by simpa using hp),
      String.toList_append, String.toList_append, toList_ofPlace]
    simp

theorem parts_join_ofPlace (cs : List Char) :
    parts (['/'].intercalate (p.map String.toList ++ [cs])) = p.map String.toList ++ parts cs := by
  by_cases hp : p = []
  · subst hp
    simp
  · rw [intercalate_concat (by simpa using hp), parts_append, parts_ofPlace h hp]

theorem nul_mem_join_ofPlace {path : String} (hrelative : path.toList.head? ≠ some '/') :
    '\x00' ∈ (join (ofPlace p) path).toList ↔ '\x00' ∈ path.toList := by
  rw [toList_join_ofPlace h hrelative]
  by_cases hp : p = []
  · simp [hp]
  · have hnul := nul_not_mem_ofPlace h
    rw [toList_ofPlace] at hnul
    rw [intercalate_concat (by simpa using hp), ← List.cons_append, List.mem_append]
    simp [hnul]

end Names

theorem parent?_root : parent? (ofPlace []) = none := rfl

/-- The path above that of a place is the path of the place above. -/
theorem parent?_ofPlace {p : Place} {name : String} (h : ∀ other ∈ p ++ [name], IsFileName other) :
    parent? (ofPlace (p ++ [name])) = some (ofPlace p) := by
  have hp : ∀ other ∈ p, IsFileName other := fun other hother => h other (by simp [hother])
  have hparts : trimBack (parts (['/'].intercalate ((p ++ [name]).map String.toList))) =
      p.map String.toList ++ [name.toList] := by
    rw [parts_ofPlace h (by simp), trimBack_names h, List.map_append, List.map_singleton]
  rw [parent?, toList_ofPlace]
  simp only [hparts]
  split
  · next hnil => simp at hnil
  · rw [List.dropLast_concat, trimBack_names hp, ← toList_ofPlace, String.ofList_toList]

/-- The paths above that of a place are those of the places above, from the innermost. -/
theorem upwards_ofPlace {p : Place} (h : ∀ name ∈ p, IsFileName name) :
    upwards (ofPlace p) = p.inits.reverse.map ofPlace := by
  induction p using List.reverseRecOn with
  | nil => exact upwards_of_none parent?_root
  | append_singleton p name ih =>
    rw [upwards_of_some (parent?_ofPlace h), ih fun other hother => h other (by simp [hother]),
      List.inits_append]
    simp

end Path

namespace FileTree

open HttpChain.Path

/-! ## trees -/

/-- Something can be at a place: the way to it is made of names, and the last of them stands
in a directory. -/
structure Admits (t : FileTree) (p : Place) : Prop where
  names : ∀ name ∈ p, IsFileName name
  above : t.node? p.dropLast = some .directory

/-- A tree as file systems are: whatever is there is where something can be, and the working
directory is a directory. -/
structure WellFormed (t : FileTree) : Prop where
  admits : ∀ p, (t.node? p).isSome = true → t.Admits p
  working : t.node? t.workingDirectory = some .directory

variable {t t' : FileTree} {p q start : Place} {name path : String} {part : List Char} {n : Node}

theorem admits_nil (t : FileTree) : t.Admits [] := ⟨nofun, t.node?_nil⟩

theorem WellFormed.admits_of_directory (ht : t.WellFormed) (h : t.node? p = some .directory) :
    t.Admits p := ht.admits p (by rw [h]; rfl)

theorem isSome_node?_iff : (t.node? p).isSome = true ↔ p = [] ∨ ∃ e ∈ t.nodes, e.1 = p := by
  rw [node?]
  split <;> simp [*]

/-- A tree is well-formed if and only if all that it lists is where something can be. -/
theorem wellFormed_iff : t.WellFormed ↔
    (∀ e ∈ t.nodes, (∀ name ∈ e.1, IsFileName name) ∧ t.node? e.1.dropLast = some .directory) ∧
      t.node? t.workingDirectory = some .directory := by
  constructor
  · intro ht
    refine ⟨fun e he => ?_, ht.working⟩
    obtain ⟨hnames, habove⟩ := ht.admits e.1 (isSome_node?_iff.2 (.inr ⟨e, he, rfl⟩))
    exact ⟨hnames, habove⟩
  · rintro ⟨hnodes, hworking⟩
    refine ⟨fun p hp => ?_, hworking⟩
    rcases isSome_node?_iff.1 hp with rfl | ⟨e, he, rfl⟩
    · exact t.admits_nil
    · exact ⟨(hnodes e he).1, (hnodes e he).2⟩

instance (t : FileTree) : Decidable t.WellFormed := decidable_of_iff' _ wellFormed_iff

theorem step_name (h : t.node? p = some .directory) (hname : IsFileName name) :
    t.step p name.toList = .ok (p ++ [name]) := by
  rw [step, h]
  simp only [hname.ne_nil, hname.ne_point, hname.ne_points, or_self, if_false,
    Nat.not_lt.2 hname.fits, String.ofList_toList]
  rfl

/-- The names of a place lead to it. -/
theorem WellFormed.foldlM_names (ht : t.WellFormed) (h : (t.node? p).isSome = true) :
    (p.map String.toList).foldlM t.step [] = .ok p := by
  induction p using List.reverseRecOn with
  | nil => rfl
  | append_singleton p name ih =>
    obtain ⟨hnames, hdirectory⟩ := ht.admits _ h
    rw [List.dropLast_concat] at hdirectory
    rw [List.map_append, List.map_singleton]
    refine foldlM_concat.2 ⟨p, ih (by rw [hdirectory]; rfl), step_name hdirectory ?_⟩
    exact hnames name (by simp)

theorem place?_of_absolute {cs : List Char} (h : path.toList = '/' :: cs) :
    t.place? path =
      if '\x00' ∈ path.toList then .error .nulInName else (parts cs).foldlM t.step [] := by
  simp only [place?, List.contains_iff_mem, h]
  rfl

theorem place?_of_relative (hne : path ≠ "") (hrelative : path.toList.head? ≠ some '/') :
    t.place? path = if '\x00' ∈ path.toList then .error .nulInName
      else (parts path.toList).foldlM t.step t.workingDirectory := by
  simp only [place?, List.contains_iff_mem]
  split
  · rfl
  · split
    · next hnil => exact absurd (String.toList_inj.1 hnil) hne
    · next cs hslash => exact absurd (by rw [hslash]; rfl) hrelative
    · rfl

/-- A relative path below that of a directory leads on from there. -/
theorem WellFormed.place?_join_ofPlace (ht : t.WellFormed) (hp : t.node? p = some .directory)
    (hrelative : path.toList.head? ≠ some '/') :
    t.place? (join (ofPlace p) path) =
      if '\x00' ∈ path.toList then .error .nulInName else (parts path.toList).foldlM t.step p := by
  have hnames := (ht.admits_of_directory hp).names
  have hway : (p.map String.toList).foldlM t.step [] = .ok p :=
    ht.foldlM_names (by rw [hp]; rfl)
  rw [place?_of_absolute (toList_join_ofPlace hnames hrelative), parts_join_ofPlace hnames,
    List.foldlM_append, hway]
  simp only [nul_mem_join_ofPlace hnames hrelative]
  rfl

/-- A path leads to the same place when it is joined to that of the working directory. -/
theorem WellFormed.place?_join_workingPath (ht : t.WellFormed) (hne : path ≠ "") :
    t.place? (join t.workingPath path) = t.place? path := by
  by_cases hrelative : path.toList.head? = some '/'
  · rw [join, if_pos (.inl hrelative)]
  · rw [place?_of_relative hne hrelative]
    exact ht.place?_join_ofPlace ht.working hrelative

/-- A directory has a file of a name if and only if it stands below it. -/
theorem WellFormed.isFile_join_ofPlace_iff (ht : t.WellFormed) (hp : t.node? p = some .directory)
    (hname : IsFileName name) : t.isFile (join (ofPlace p) name) = true ↔
      ∃ content, t.node? (p ++ [name]) = some (.file content) := by
  have hrelative : name.toList.head? ≠ some '/' := fun hslash =>
    hname.not_slash (List.mem_of_mem_head? hslash)
  have hparts : parts name.toList = [name.toList] := by
    simpa using parts_intercalate (List.cons_ne_nil name.toList []) (by simpa using hname.not_slash)
  have hplace : t.place? (join (ofPlace p) name) = .ok (p ++ [name]) := by
    rw [ht.place?_join_ofPlace hp hrelative, if_neg hname.not_nul, hparts]
    exact foldlM_cons.2 ⟨_, step_name hp hname, rfl⟩
  simp [isFile_iff, hplace]

/-! ## where paths lead -/

/-- A part of a way leads nowhere else, up, or to a name in a directory. -/
theorem step_cases (h : t.step p part = .ok q) : t.node? p = some .directory ∧
    (q = p ∨ q = p.dropLast ∨ q = p ++ [String.ofList part] ∧ part ≠ [] ∧ part ≠ ['.'] ∧
      part ≠ ['.', '.'] ∧ (Text.utf8 part).length ≤ 255) := by
  have hdirectory := isDirectory_of_step h
  refine ⟨hdirectory, ?_⟩
  rw [step, hdirectory] at h
  dsimp only at h
  split at h
  · cases h
    exact .inl rfl
  · next hblank =>
    split at h
    · cases h
      exact .inr (.inl rfl)
    · next hpoints =>
      split at h
      · cases h
      · next hfits =>
        cases h
        rw [not_or] at hblank
        exact .inr (.inr ⟨rfl, hblank.1, hblank.2, hpoints, Nat.not_lt.1 hfits⟩)

theorem WellFormed.admits_step (ht : t.WellFormed) (hslash : '/' ∉ part) (hnul : '\x00' ∉ part)
    (h : t.step p part = .ok q) : t.Admits q := by
  obtain ⟨hdirectory, hq⟩ := step_cases h
  have hp := ht.admits_of_directory hdirectory
  rcases hq with rfl | rfl | ⟨rfl, hne, hpoint, hpoints, hfits⟩
  · exact hp
  · exact ht.admits_of_directory hp.above
  · refine ⟨fun name hname => ?_, by rwa [List.dropLast_concat]⟩
    rcases List.mem_append.1 hname with hname | hname
    · exact hp.names name hname
    · rw [List.mem_singleton.1 hname]
      constructor <;> rw [String.toList_ofList] <;> assumption

theorem WellFormed.admits_foldlM (ht : t.WellFormed) {ps : List (List Char)}
    (hparts : ∀ part ∈ ps, '/' ∉ part ∧ '\x00' ∉ part) (hstart : t.Admits start)
    (h : ps.foldlM t.step start = .ok q) : t.Admits q := by
  induction ps generalizing start with
  | nil =>
    cases h
    exact hstart
  | cons part ps ih =>
    rw [List.forall_mem_cons] at hparts
    obtain ⟨next, hstep, hway⟩ := foldlM_cons.1 h
    exact ih hparts.2 (ht.admits_step hparts.1.1 hparts.1.2 hstep) hway

/-- A path leads to where something can be. -/
theorem WellFormed.admits_of_place? (ht : t.WellFormed) (h : t.place? path = .ok q) :
    t.Admits q := by
  obtain ⟨hnul, -, lead, start, body, hanchor, hpath, -, hway⟩ := place?_eq_ok_iff.1 h
  refine ht.admits_foldlM (fun part hpart => ?_) ?_ hway
  · have hchars := Text.mem_of_mem_splitAll hpart
    refine ⟨fun hslash => (hchars _ hslash).2 rfl, fun hmem => hnul ?_⟩
    rw [hpath]
    exact List.mem_append_right _ (hchars _ hmem).1
  · cases hanchor with
    | root => exact t.admits_nil
    | here => exact ht.admits_of_directory ht.working

/-! ## writing -/

/-- One tree is another one with files and directories written: the program is where it was,
and the tree is still as file systems are. -/
structure Written (t t' : FileTree) : Prop where
  workingDirectory : t'.workingDirectory = t.workingDirectory
  home : t'.home = t.home
  wellFormed : t.WellFormed → t'.WellFormed

theorem Written.refl (t : FileTree) : Written t t := ⟨rfl, rfl, id⟩

theorem Written.trans {t'' : FileTree} (h : Written t t') (h' : Written t' t'') :
    Written t t'' where
  workingDirectory := h'.workingDirectory.trans h.workingDirectory
  home := h'.home.trans h.home
  wellFormed := h'.wellFormed ∘ h.wellFormed

theorem Admits.set (h : t.Admits q) (hp : t.node? p ≠ some .directory) :
    (t.set p n).Admits q := by
  have hne : q.dropLast ≠ p := fun heq => hp (heq ▸ h.above)
  exact ⟨h.names, (node?_set_of_ne hne).trans h.above⟩

/-- What is written at the end of a path, where there is no directory. -/
theorem written_set (h : t.place? path = .ok p) (hp : t.node? p ≠ some .directory) (n : Node) :
    Written t (t.set p n) where
  workingDirectory := rfl
  home := rfl
  wellFormed ht := by
    refine ⟨fun q hq => ?_, ?_⟩
    · by_cases hqp : q = p
      · rw [hqp]
        exact (ht.admits_of_place? h).set hp
      · rw [node?_set_of_ne hqp] at hq
        exact (ht.admits q hq).set hp
    · have hne : t.workingDirectory ≠ p := by
        rintro rfl
        exact hp ht.working
      exact (node?_set_of_ne hne).trans ht.working

theorem written_makeDirectory (h : t.makeDirectory path = .ok t') : Written t t' := by
  rw [makeDirectory] at h
  cases hplace : t.place? (String.ofList ((path.toList.reverse.dropWhile (· == '/')).reverse)) with
  | error f =>
    rw [hplace] at h
    cases h
  | ok p =>
    rw [hplace] at h
    change (if (t.node? p).isSome = true then _ else _) = _ at h
    split at h
    · cases h
    · next hnone =>
      cases h
      refine written_set hplace (fun hdirectory => hnone ?_) _
      rw [hdirectory]
      rfl

theorem written_makeAll {paths : List String} (h : t.makeAll paths = .ok t') : Written t t' := by
  induction paths generalizing t t' with
  | nil =>
    cases h
    exact .refl t
  | cons path above ih =>
    rw [makeAll] at h
    split at h
    · cases h
      exact .refl t
    · split at h
      · next hmade =>
        cases h
        exact written_makeDirectory hmade
      · cases habove : t.makeAll above with
        | error f => simp [habove, bind, Except.bind] at h
        | ok u =>
          have hu := ih habove
          simp only [habove, bind, Except.bind] at h
          split at h
          · next hmade =>
            obtain rfl := Except.ok.inj h
            exact hu.trans (written_makeDirectory hmade)
          · split at h
            · obtain rfl := Except.ok.inj h
              exact hu
            · cases h
      · split at h <;> cases h
        exact .refl t

theorem written_write {content : List UInt8} (h : t.write path content = .ok t') :
    Written t t' := by
  obtain ⟨p, hplace, hfile, rfl⟩ := exists_of_write h
  exact written_set hplace hfile _

end FileTree

end HttpChain
