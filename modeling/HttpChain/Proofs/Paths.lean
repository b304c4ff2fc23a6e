import HttpChain.Proofs.Files
import Mathlib.Data.List.DropRight

/-!
# HttpChain.Proofs.Paths

Writing where there is no directory.  A path that leads to a file, or to a place where one
can be, ends in its name, and what stands before it leads to a directory
(`isDirectory_parent`), where no directory has to be made (`makeDirectories_of_isDirectory`).
So what can be read can be written (`write_of_place?`), and as a file stays a file, all paths
lead where they led (`place?_set_file`).
-/

namespace HttpChain

/-! ## parts of texts -/

theorem Text.splitAll_eq (sep : Char) (cs : List Char) : Text.splitAll sep cs = cs.splitOn sep := by
  induction cs with
  | nil => rw [Text.splitAll, List.splitOn_nil]
  | cons c cs ih =>
    rw [Text.splitAll, ih, List.splitOn_cons_eq_if_modifyHead]
    simp only [beq_iff_eq]
    split
    · rfl
    · cases h : cs.splitOn sep with
      | nil => exact absurd h (List.splitOn_ne_nil sep cs)
      | cons p ps => rfl

theorem Text.splitAll_ne_nil (sep : Char) (cs : List Char) : Text.splitAll sep cs ≠ [] := by
  rw [Text.splitAll_eq]
  exact List.splitOn_ne_nil sep cs

/-- The parts of a text are made of its characters, and the separator is in none. -/
theorem Text.mem_of_mem_splitAll {sep : Char} {cs p : List Char} (h : p ∈ Text.splitAll sep cs) :
    ∀ c ∈ p, c ∈ cs ∧ c ≠ sep := by
  induction cs generalizing p with
  | nil =>
    obtain rfl := List.mem_singleton.1 h
    exact fun c hc => absurd hc List.not_mem_nil
  | cons d cs ih =>
    have hlater : ∀ p ∈ Text.splitAll sep cs, ∀ c ∈ p, c ∈ d :: cs ∧ c ≠ sep := fun p hp c hc =>
      ⟨List.mem_cons_of_mem _ (ih hp c hc).1, (ih hp c hc).2⟩
    rw [Text.splitAll] at h
    split at h
    · rcases List.mem_cons.1 h with rfl | h
      · exact fun c hc => absurd hc List.not_mem_nil
      · exact hlater p h
    · next hd =>
      split at h
      · next hnil => exact absurd hnil (Text.splitAll_ne_nil sep cs)
      · next first rest hcons =>
        rw [hcons] at hlater
        rcases List.mem_cons.1 h with rfl | h
        · exact List.forall_mem_cons.2 ⟨⟨List.mem_cons_self, hd⟩, hlater first List.mem_cons_self⟩
        · exact hlater p (List.mem_cons_of_mem _ h)

theorem intercalate_prefix {sep : List Char} {ps qs : List (List Char)} (h : ps <+: qs) :
    sep.intercalate ps <+: sep.intercalate qs := by
  induction ps generalizing qs with
  | nil => exact List.nil_prefix
  | cons p ps ih =>
    obtain ⟨qs, rfl⟩ : ∃ rest, qs = p :: rest := by
      obtain ⟨more, rfl⟩ := h
      exact ⟨_, rfl⟩
    rw [List.cons_prefix_cons] at h
    cases ps with
    | nil =>
      rw [List.intercalate_singleton]
      cases qs with
      | nil => simp
      | cons q qs =>
        rw [List.intercalate_cons_cons, List.append_assoc]
        exact List.prefix_append _ _
    | cons p' ps =>
      have hne : qs ≠ [] := by
        rintro rfl
        exact absurd (List.prefix_nil.1 h.2) (List.cons_ne_nil _ _)
      rw [List.intercalate_cons_cons, List.intercalate_cons_of_ne_nil hne]
      exact (List.prefix_append_right_inj _).2 (ih h.2)

namespace Path

theorem parts_intercalate {ps : List (List Char)} (hne : ps ≠ []) (h : ∀ p ∈ ps, '/' ∉ p) :
    parts (['/'].intercalate ps) = ps := by
  rw [parts, Text.splitAll_eq]
  exact List.splitOn_intercalate '/' h hne

theorem intercalate_parts (cs : List Char) : ['/'].intercalate (parts cs) = cs := by
  rw [parts, Text.splitAll_eq]
  exact List.intercalate_splitOn '/'

theorem parts_append_slash (cs : List Char) : parts (cs ++ ['/']) = parts cs ++ [[]] := by
  rw [parts, parts, Text.splitAll_eq, Text.splitAll_eq, List.splitOn_append_cons_self,
    List.splitOn_nil]

end Path

namespace FileTree

open HttpChain.Path

variable {t : FileTree} {start p q : Place}

/-! ## ways -/

theorem step_blank {part : List Char} (hpart : part = [] ∨ part = ['.'])
    (h : t.step p part = .ok q) : q = p ∧ t.node? p = some .directory := by
  have hdirectory := isDirectory_of_step h
  rw [step, hdirectory] at h
  dsimp only at h
  rw [if_pos hpart] at h
  cases h
  exact ⟨rfl, hdirectory⟩

theorem foldlM_concat {ps : List (List Char)} {part : List Char} :
    (ps ++ [part]).foldlM t.step start = .ok q ↔
      ∃ p, ps.foldlM t.step start = .ok p ∧ t.step p part = .ok q := by
  rw [List.foldlM_append]
  cases ps.foldlM t.step start with
  | error f => simp [bind, Except.bind]
  | ok p => cases hstep : t.step p part <;> simp [bind, Except.bind, pure, Except.pure, hstep]

/-- Blank parts at the end of a way lead nowhere else. -/
theorem foldlM_trimBack {ps : List (List Char)} (h : ps.foldlM t.step start = .ok q) :
    (trimBack ps).foldlM t.step start = .ok q := by
  induction ps using List.reverseRecOn generalizing q with
  | nil => exact h
  | append_singleton ps part ih =>
    obtain ⟨p, hway, hstep⟩ := foldlM_concat.1 h
    change (List.rdropWhile _ (ps ++ [part])).foldlM t.step start = .ok q
    by_cases hblank : part = [] ∨ part = ['.']
    · obtain ⟨rfl, -⟩ := step_blank hblank hstep
      rw [List.rdropWhile_concat_pos _ _ _ (by simpa using hblank)]
      exact ih hway
    · rw [List.rdropWhile_concat_neg _ _ _ (by simpa using hblank)]
      exact h

/-- A way to no directory ends in a name, and leads through a directory there. -/
theorem foldlM_parent {ps : List (List Char)} (hne : ps ≠ [])
    (h : ps.foldlM t.step start = .ok q) (hfree : t.node? q ≠ some .directory) :
    trimBack ps = ps ∧ ∃ p, (trimBack ps.dropLast).foldlM t.step start = .ok p ∧
      t.node? p = some .directory := by
  induction ps using List.reverseRecOn with
  | nil => exact absurd rfl hne
  | append_singleton ps part =>
    obtain ⟨p, hway, hstep⟩ := foldlM_concat.1 h
    refine ⟨List.rdropWhile_concat_neg _ _ _ fun hblank => ?_, p, ?_, isDirectory_of_step hstep⟩
    · obtain ⟨rfl, hdirectory⟩ := step_blank (by simpa using hblank) hstep
      exact hfree hdirectory
    · rw [List.dropLast_concat]
      exact foldlM_trimBack hway

/-! ## paths -/

/-- Where a path starts: at the root behind a leading slash, and in the working
directory otherwise. -/
inductive Anchor (t : FileTree) : List Char → Place → Prop where
  | root : Anchor t ['/'] []
  | here : Anchor t [] t.workingDirectory

/-- A path leads along its parts, from where it starts. -/
theorem place?_eq_ok_iff {path : String} :
    t.place? path = .ok q ↔ '\x00' ∉ path.toList ∧ path ≠ "" ∧
      ∃ lead start body, t.Anchor lead start ∧ path.toList = lead ++ body ∧
        (lead = [] → body.head? ≠ some '/') ∧ (parts body).foldlM t.step start = .ok q := by
  rw [place?, ne_eq, ← String.toList_inj, String.toList_empty]
  by_cases hnul : '\x00' ∈ path.toList
  · simp [hnul, throw, throwThe, MonadExceptOf.throw]
  · rw [if_neg (by simpa using hnul)]
    simp only [hnul, not_false_iff, true_and]
    constructor
    · intro h
      split at h
      · cases h
      · next cs hcs =>
        exact ⟨by simp [hcs], ['/'], [], cs, .root, hcs, (absurd · (List.cons_ne_nil _ _)), h⟩
      · next hempty habsolute =>
        refine ⟨hempty, _, _, _, .here, rfl, fun _ hhead => ?_, h⟩
        obtain ⟨cs, hcs⟩ := List.head?_eq_some_iff.1 hhead
        exact habsolute cs hcs
    · rintro ⟨hempty, lead, start, body, hanchor, hcs, hhead, hway⟩
      cases hanchor with
      | root =>
        rw [hcs]
        exact hway
      | here =>
        rw [List.nil_append] at hcs
        rw [hcs] at hempty ⊢
        split
        · exact absurd rfl hempty
        · exact absurd rfl (hhead rfl)
        · exact hway

theorem isDirectory_iff {path : String} : t.isDirectory path = true ↔
    ∃ p, t.place? path = .ok p ∧ t.node? p = some .directory := by
  rw [isDirectory]
  cases t.place? path <;> simp

/-- The path that stands before the name of a file is made of parts of its way that lead
to a directory. -/
theorem exists_parts_of_parent? {path parent : String} {lead body : List Char}
    (hanchor : t.Anchor lead start) (hpath : path.toList = lead ++ body)
    (hhead : lead = [] → body.head? ≠ some '/') (hway : (parts body).foldlM t.step start = .ok q)
    (hfree : t.node? q ≠ some .directory) (hparent : parent? path = some parent)
    (hne : parent ≠ "") : ∃ ps p, ps <+: parts body ∧ ps.foldlM t.step start = .ok p ∧
      t.node? p = some .directory ∧ parent.toList = lead ++ ['/'].intercalate ps := by
  have hbody : parts body ≠ [] := Text.splitAll_ne_nil '/' body
  obtain ⟨htrim, p, hparts, hdirectory⟩ := foldlM_parent hbody hway hfree
  have hahead : trimBack (parts body).dropLast <+: parts body :=
    (List.rdropWhile_prefix _ _).trans (List.dropLast_prefix _)
  rw [parent?] at hparent
  cases hanchor with
  | root =>
    rw [hpath] at hparent
    simp only [List.singleton_append, htrim] at hparent
    cases hparent
    exact ⟨_, p, hahead, hparts, hdirectory, by simp⟩
  | here =>
    rw [List.nil_append] at hpath
    rw [hpath] at hparent
    split at hparent
    · exact absurd rfl (hhead rfl)
    · split at hparent
      · next rest hrest =>
        -- a leading point is a part of its own, and leads nowhere else
        rw [hrest] at hway
        obtain ⟨here, hpoint, hway⟩ := foldlM_cons.1 hway
        obtain ⟨rfl, -⟩ := step_blank (.inr rfl) hpoint
        by_cases hnil : rest = []
        · rw [hnil] at hparent
          cases hparent
          exact absurd rfl hne
        · obtain ⟨htrim, p, hparts, hdirectory⟩ := foldlM_parent hnil hway hfree
          rw [htrim] at hparent
          split at hparent
          · cases hparent
            exact absurd rfl hne
          · cases hparent
            refine ⟨['.'] :: trimBack rest.dropLast, p, ?_, foldlM_cons.2 ⟨_, hpoint, hparts⟩,
              hdirectory, by simp⟩
            rw [hrest, List.cons_prefix_cons]
            exact ⟨rfl, (List.rdropWhile_prefix _ _).trans (List.dropLast_prefix _)⟩
      · rw [htrim] at hparent
        split at hparent
        · cases hparent
        · cases hparent
          exact ⟨_, p, hahead, hparts, hdirectory, by simp⟩

/-- What stands before the name of a file leads to a directory. -/
theorem isDirectory_parent {path parent : String}
    (h : t.place? path = .ok q) (hfree : t.node? q ≠ some .directory)
    (hparent : parent? path = some parent) (hne : parent ≠ "") : t.isDirectory parent = true := by
  obtain ⟨hnul, -, lead, start, body, hanchor, hpath, hhead, hway⟩ := place?_eq_ok_iff.1 h
  obtain ⟨ps, p, hahead, hparts, hdirectory, htext⟩ :=
    exists_parts_of_parent? hanchor hpath hhead hway hfree hparent hne
  have htextPrefix : ['/'].intercalate ps <+: body := by
    have hall : ['/'].intercalate ps <+: ['/'].intercalate (parts body) := intercalate_prefix hahead
    rwa [intercalate_parts] at hall
  have hway' : (parts (['/'].intercalate ps)).foldlM t.step start = .ok p := by
    by_cases hnil : ps = []
    · cases hanchor with
      | root =>
        rw [hnil] at hparts ⊢
        cases hparts
        rfl
      | here =>
        rw [hnil] at htext
        exact absurd (String.toList_inj.1 htext) hne
    · have hslash : ∀ part ∈ ps, '/' ∉ part := fun part hmem hc =>
        (Text.mem_of_mem_splitAll (hahead.subset hmem) _ hc).2 rfl
      rw [parts_intercalate hnil hslash]
      exact hparts
  refine isDirectory_iff.2 ⟨p, place?_eq_ok_iff.2 ⟨fun hmem => hnul ?_, hne, lead, start, _, hanchor,
    htext, fun hlead hslash => hhead hlead ?_, hway'⟩, hdirectory⟩
  · rw [hpath]
    rw [htext] at hmem
    exact ((List.prefix_append_right_inj lead).2 htextPrefix).subset hmem
  · obtain ⟨more, rfl⟩ := htextPrefix
    rw [List.head?_append, hslash, Option.some_or]

/-- A slash at the end of a path leads nowhere else, and has a directory before it. -/
theorem place?_append_slash {cs : List Char} (h : t.place? (String.ofList (cs ++ ['/'])) = .ok q) :
    t.node? q = some .directory ∧ (cs ≠ [] → t.place? (String.ofList cs) = .ok q) := by
  obtain ⟨hnul, -, lead, start, body, hanchor, hpath, hhead, hway⟩ := place?_eq_ok_iff.1 h
  rw [String.toList_ofList] at hpath hnul
  rcases List.eq_nil_or_concat body with rfl | ⟨body, last, rfl⟩
  · cases hanchor with
    | root =>
      cases hway
      exact ⟨node?_nil t, fun hcs => absurd (by simpa using hpath) hcs⟩
    | here => simp at hpath
  · rw [List.concat_eq_append, ← List.append_assoc] at hpath
    obtain ⟨rfl, hlast⟩ := List.append_inj' hpath rfl
    cases hlast
    rw [List.concat_eq_append, parts_append_slash] at hway
    obtain ⟨p, hparts, hstep⟩ := foldlM_concat.1 hway
    obtain ⟨rfl, hdirectory⟩ := step_blank (.inl rfl) hstep
    refine ⟨hdirectory, fun hcs => place?_eq_ok_iff.2 ⟨fun hmem => hnul ?_,
      fun hempty => hcs (String.ofList_eq_empty_iff.1 hempty), lead, start, body, hanchor,
      String.toList_ofList, fun hlead hslash => hhead hlead ?_, hparts⟩⟩
    · rw [String.toList_ofList] at hmem
      exact List.mem_append_left _ hmem
    · rw [List.concat_eq_append, List.head?_append, hslash, Option.some_or]

theorem place?_trimSlashes {cs : List Char} (h : t.place? (String.ofList cs) = .ok q)
    (hne : cs.rdropWhile (· == '/') ≠ []) :
    t.place? (String.ofList (cs.rdropWhile (· == '/'))) = .ok q := by
  induction cs using List.reverseRecOn with
  | nil => exact absurd rfl hne
  | append_singleton cs c ih =>
    by_cases hc : c = '/'
    · subst hc
      rw [List.rdropWhile_concat_pos _ _ _ (by decide)] at hne ⊢
      refine ih ((place?_append_slash h).2 ?_) hne
      rintro rfl
      exact hne rfl
    · rw [List.rdropWhile_concat_neg _ _ _ (by simpa using hc)]
      exact h

theorem parent?_of_slashes {path : String} (h : path.toList.rdropWhile (· == '/') = []) :
    parent? path = none := by
  rw [List.rdropWhile_eq_nil_iff] at h
  have hblank : ∀ cs, (∀ c ∈ cs, (c == '/') = true) → trimBack (parts cs) = [] := by
    intro cs hcs
    refine (List.rdropWhile_eq_nil_iff (p := fun p => p = [] || p = ['.'])).2 fun part hpart => ?_
    have hempty : part = [] := List.eq_nil_iff_forall_not_mem.2 fun c hc =>
      (Text.mem_of_mem_splitAll hpart c hc).2
        (by simpa using hcs c (Text.mem_of_mem_splitAll hpart c hc).1)
    rw [hempty]
    rfl
  rw [parent?]
  split
  · next body hcs =>
    rw [hcs, List.forall_mem_cons] at h
    rw [hblank body h.2]
  · split
    · next rest hrest =>
      have hpoint := Text.mem_of_mem_splitAll (hrest ▸ List.mem_cons_self) '.' List.mem_cons_self
      exact absurd (h '.' hpoint.1) (by decide)
    · rw [hblank _ h]

theorem makeDirectory_of_isDirectory {path : String} (h : t.isDirectory path = true) :
    t.makeDirectory path =
      .error (if path.toList.rdropWhile (· == '/') = [] then .notFound else .alreadyThere) := by
  obtain ⟨q, hplace, hdirectory⟩ := isDirectory_iff.1 h
  change (t.place? (String.ofList (path.toList.rdropWhile (· == '/'))) >>= _) = _
  split
  · next hslashes =>
    rw [hslashes]
    rfl
  · next hslashes =>
    rw [place?_trimSlashes (by rwa [String.ofList_toList]) hslashes]
    simp only [bind, Except.bind, hdirectory]
    rfl

/-- Where a directory is, none has to be made. -/
theorem makeDirectories_of_isDirectory {path : String} (h : t.isDirectory path = true) :
    t.makeDirectories path = .ok t := by
  have hmake := makeDirectory_of_isDirectory h
  rw [makeDirectories, upwards, ancestors]
  by_cases hslashes : path.toList.rdropWhile (· == '/') = []
  · rw [if_pos hslashes] at hmake
    simp only [parent?_of_slashes hslashes, makeAll, hmake, h, pure_bind]
    split <;> rfl
  · rw [if_neg hslashes] at hmake
    split <;> simp only [makeAll, hmake, h] <;> split <;> rfl

/-- Where a path leads and there is no directory, a file can be written. -/
theorem write_of_place? {path : String} (h : t.place? path = .ok q)
    (hfree : t.node? q ≠ some .directory) (content : List UInt8) :
    t.write path content = .ok (t.set q (.file content)) := by
  have hlast : path.toList.getLast? ≠ some '/' := by
    intro hslash
    obtain ⟨cs, hcs⟩ := List.getLast?_eq_some_iff.1 hslash
    rw [← String.ofList_toList (s := path), hcs] at h
    exact hfree (place?_append_slash h).1
  rw [write, if_neg hlast, h]
  exact if_neg hfree

/-! ## a file with other content -/

section Replaced

variable {old new : List UInt8} (h : t.node? p = some (.file old))
include h

/-- A file stays a file, whatever is written into it, and all paths lead where they led. -/
theorem place?_set_file (path : String) : (t.set p (.file new)).place? path = t.place? path := by
  have hp := ne_nil_of_node? (node?_ne_directory h)
  have hstep : (t.set p (.file new)).step = t.step := by
    funext q part
    rw [step, step]
    by_cases hq : q = p
    · rw [hq, node?_set_self hp, h]
    · rw [node?_set_of_ne hq]
  rw [place?, place?, hstep]
  rfl

theorem isFile_set_file (path : String) : (t.set p (.file new)).isFile path = t.isFile path := by
  have hp := ne_nil_of_node? (node?_ne_directory h)
  rw [isFile, isFile, read, read, place?_set_file h]
  cases t.place? path with
  | error f => rfl
  | ok q =>
    simp only [bind, Except.bind]
    by_cases hq : q = p
    · rw [hq, node?_set_self hp, h]
      rfl
    · rw [node?_set_of_ne hq]

end Replaced

end FileTree

end HttpChain
