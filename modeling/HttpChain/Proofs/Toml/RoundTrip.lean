import HttpChain.Proofs.Toml.Sections

/-!
# HttpChain.Proofs.Toml.RoundTrip

What is written is read back: the text of a document, line by line, opens the
tables of its sections and defines their entries, so that reading gives the
document in order (`read?_write`).
-/

namespace HttpChain.Toml

open Draft (Entries defineBelow openTable openElement)

/-! ## lines -/

/-- What the lines of a text make of the entries so far, below a header. -/
def Makes (header : List String) (cs : List Char) (f : Entries → Option Entries) : Prop :=
  ∀ fuel es, cs.length < fuel → lines? fuel header cs es = f es

theorem makes_nil (header : List String) : Makes header [] some := by
  intro fuel es h
  obtain ⟨fuel, rfl⟩ : ∃ n, fuel = n + 1 := ⟨fuel - 1, by omega⟩
  rfl

variable {header : List String} {cs : List Char} {f : Entries → Option Entries}

/-- An empty line makes nothing. -/
theorem Makes.newline (h : Makes header cs f) : Makes header ('\n' :: cs) f := by
  intro fuel es hfuel
  rw [List.length_cons] at hfuel
  obtain ⟨fuel, rfl⟩ : ∃ n, fuel = n + 1 := ⟨fuel - 1, by omega⟩
  rw [← h (fuel + 1) es (by omega), lines?, lines?, skipAll_newline]

/-- A path of keys has neither blanks nor brackets in front. -/
theorem exists_cons_pathForm {path : List String} (h : path ≠ []) :
    ∃ c cs, pathForm path = c :: cs ∧ Visible c ∧ c ≠ '[' := by
  obtain ⟨k, ks, rfl⟩ := List.exists_cons_of_ne_nil h
  obtain ⟨c, cs, hk, hc⟩ := exists_cons_keyForm k
  have hvisible : Visible c ∧ c ≠ '[' := by
    refine ⟨fun hmem => ?_, ?_⟩
    · simp only [List.mem_cons, List.not_mem_nil, or_false] at hmem
      rcases hmem with rfl | rfl | rfl | rfl | rfl <;> revert hc <;> decide
    · rintro rfl
      revert hc
      decide
  cases ks with
  | nil => exact ⟨c, cs, by rw [pathForm_singleton, hk], hvisible⟩
  | cons l ks => exact ⟨c, _, by rw [pathForm_cons_cons, hk, List.cons_append], hvisible⟩

/-- A path of keys reads back in front of a blank or a bracket. -/
theorem dottedKey?_before {path : List String} (h : path ≠ []) (c : Char) (rest : List Char)
    (hc : isBareKeyChar c = false) (hpoint : (skipBlanks (c :: rest)).head? ≠ some '.') :
    dottedKey? ((pathForm path ++ c :: rest).length + 1) (pathForm path ++ c :: rest) =
      some (path, skipBlanks (c :: rest)) := by
  refine dottedKey?_pathForm h ?_ (fun d hd => ?_) hpoint
  · have hlength := length_le_pathForm path
    rw [List.length_append]
    omega
  · rwa [← Option.some.inj hd]

theorem exists_cons_valueForm_of_plain {v : Toml} (h : Plain v) :
    ∃ c cs, valueForm v = c :: cs ∧ Visible c := by
  cases h with
  | scalar h =>
    obtain ⟨c, cs, hv, hc⟩ := exists_cons_valueForm h
    exact ⟨c, cs, hv, hc.1⟩
  | @array vs h =>
    match vs with
    | [] | [v] | v :: w :: vs => exact ⟨_, _, by rw [valueForm], by decide⟩

theorem skipBlanks_of_visible {c : Char} (h : Visible c) (cs : List Char) :
    skipBlanks (c :: cs) = c :: cs := by
  apply skipBlanks_cons
  constructor <;> rintro rfl <;> revert h <;> decide

theorem lines?_entry {c : Char} (hc : Visible c ∧ c ≠ '[') (fuel : Nat) (header : List String)
    (cs : List Char) (es : Entries) :
    lines? (fuel + 1) header (c :: cs) es =
      (dottedKey? ((c :: cs).length + 1) (c :: cs)).bind fun r =>
        match r.2 with
        | '=' :: cs =>
          (value? (2 * cs.length + 2) depthLimit (skipBlanks cs)).bind fun x =>
            (defineBelow header r.1 x.1 es).bind fun es =>
              (restOfLine? x.2).bind fun cs => lines? fuel header cs es
        | _ => none := by
  rw [lines?, skipAll_cons hc.1]
  split
  · next heq => cases heq
  · next heq => exact absurd (List.cons.inj heq).1 hc.2
  · next heq => exact absurd (List.cons.inj heq).1 hc.2
  · rfl

/-- A line with a plain value defines it. -/
theorem Makes.entry (h : Makes header cs f) (k : String) {v : Toml} (hv : Plain v) :
    Makes header (keyForm k ++ " = ".toList ++ valueForm v ++ '\n' :: cs)
      fun es => (defineBelow header [k] v es).bind f := by
  intro fuel es hfuel
  obtain ⟨fuel, rfl⟩ : ∃ n, fuel = n + 1 := ⟨fuel - 1, by omega⟩
  have htext : keyForm k ++ " = ".toList ++ valueForm v ++ '\n' :: cs =
      pathForm [k] ++ (' ' :: '=' :: ' ' :: (valueForm v ++ '\n' :: cs)) := by
    simp [pathForm_singleton]
  rw [htext] at hfuel ⊢
  have hlength : cs.length < fuel := by
    simp only [List.length_append, List.length_cons] at hfuel
    omega
  have hkey := dottedKey?_before (List.cons_ne_nil k []) ' '
    ('=' :: ' ' :: (valueForm v ++ '\n' :: cs)) (by decide) (by simp [skipBlanks])
  obtain ⟨c, more, hc, hvisible⟩ := exists_cons_pathForm (List.cons_ne_nil k [])
  obtain ⟨d, ds, hd, hdv⟩ := exists_cons_valueForm_of_plain hv
  rw [hc, List.cons_append] at hkey ⊢
  rw [lines?_entry hvisible, hkey]
  have hblanks : skipBlanks (' ' :: (valueForm v ++ '\n' :: cs)) = valueForm v ++ '\n' :: cs := by
    rw [hd]
    exact skipBlanks_of_visible hdv _
  have hread : value? (2 * (' ' :: (valueForm v ++ '\n' :: cs)).length + 2) depthLimit
      (valueForm v ++ '\n' :: cs) = some (v, '\n' :: cs) := by
    refine value?_valueForm hv ?_ 79 ⟨_, _, rfl, by decide⟩
    simp only [List.length_cons, List.length_append]
    omega
  show (value? _ depthLimit (skipBlanks (' ' :: (valueForm v ++ '\n' :: cs)))).bind _ = _
  rw [hblanks, hread]
  exact Option.bind_congr fun es _ => h fuel es hlength

/-- The lines of plain values define them, one after the other. -/
theorem Makes.entries (h : Makes header cs f) {entries : List (String × Toml)}
    (hentries : ∀ e ∈ entries, Plain e.2) :
    Makes header (Section.entryLines entries ++ cs) fun es =>
      (entries.foldlM (fun es e => defineBelow header [e.1] e.2 es) es).bind f := by
  induction entries with
  | nil => exact h
  | cons e entries ih =>
    obtain ⟨k, v⟩ := e
    have hrest := ih fun e he => hentries e (List.mem_cons_of_mem _ he)
    have htext : Section.entryLines ((k, v) :: entries) ++ cs =
        keyForm k ++ " = ".toList ++ valueForm v ++ '\n' :: (Section.entryLines entries ++ cs) := by
      simp [Section.entryLines]
    rw [htext]
    intro fuel es hfuel
    rw [hrest.entry k (hentries _ List.mem_cons_self) fuel es hfuel]
    simp only [List.foldlM_cons]
    exact (Option.bind_assoc _ _ _).symm

theorem lines?_header {c : Char} (hc : Visible c ∧ c ≠ '[') (fuel : Nat) (header : List String)
    (cs : List Char) (es : Entries) :
    lines? (fuel + 1) header ('[' :: c :: cs) es =
      (dottedKey? ((c :: cs).length + 1) (c :: cs)).bind fun r =>
        match r.2 with
        | ']' :: cs =>
          (openTable r.1 es).bind fun es => (restOfLine? cs).bind fun cs => lines? fuel r.1 cs es
        | _ => none := by
  rw [lines?, skipAll_cons (by decide)]
  split
  · next heq => cases heq
  · next heq => exact absurd (List.cons.inj (List.cons.inj heq).2).1 hc.2
  · next heq =>
    rw [← (List.cons.inj heq).2, skipBlanks_of_visible hc.1]
    rfl
  · next heq => exact absurd rfl (heq _)

theorem lines?_elementHeader {c : Char} (hc : Visible c ∧ c ≠ '[') (fuel : Nat)
    (header : List String) (cs : List Char) (es : Entries) :
    lines? (fuel + 1) header ('[' :: '[' :: c :: cs) es =
      (dottedKey? ((c :: cs).length + 1) (c :: cs)).bind fun r =>
        match r.2 with
        | ']' :: ']' :: cs =>
          (openElement r.1 es).bind fun es => (restOfLine? cs).bind fun cs => lines? fuel r.1 cs es
        | _ => none := by
  rw [lines?, skipAll_cons (by decide)]
  simp only [skipBlanks_of_visible hc.1]
  rfl

namespace Section

/-- A section makes what reading it does. -/
theorem makes {s : Section} (hpath : s.path ≠ []) (hentries : ∀ e ∈ s.entries, Plain e.2)
    (h : Makes s.path cs f) (header : List String) :
    Makes header (s.text ++ cs) fun es => (s.loadIn es).bind f := by
  obtain ⟨element, path, entries⟩ := s
  have hlines : Makes path (entryLines entries ++ cs) _ := h.entries hentries
  obtain ⟨c, more, hc, hvisible⟩ := exists_cons_pathForm hpath
  cases element with
  | false =>
    have hkey := dottedKey?_before hpath ']' ('\n' :: (entryLines entries ++ cs)) (by decide)
      (by simp [skipBlanks])
    have htext : text ⟨false, path, entries⟩ ++ cs =
        '[' :: (pathForm path ++ ']' :: '\n' :: (entryLines entries ++ cs)) := by
      simp [text, Toml.header]
    rw [htext]
    intro fuel es hfuel
    obtain ⟨fuel, rfl⟩ : ∃ n, fuel = n + 1 := ⟨fuel - 1, by omega⟩
    simp only [List.length_cons, List.length_append] at hfuel
    rw [hc, List.cons_append] at hkey ⊢
    rw [lines?_header hvisible, hkey]
    show (openTable path es).bind _ = ((openTable path es).bind _).bind f
    rw [Option.bind_assoc]
    exact Option.bind_congr fun es _ => hlines fuel es (by rw [List.length_append]; omega)
  | true =>
    have hkey := dottedKey?_before hpath ']' (']' :: '\n' :: (entryLines entries ++ cs)) (by decide)
      (by simp [skipBlanks])
    have htext : text ⟨true, path, entries⟩ ++ cs =
        '[' :: '[' :: (pathForm path ++ ']' :: ']' :: '\n' :: (entryLines entries ++ cs)) := by
      simp [text, elementHeader]
    rw [htext]
    intro fuel es hfuel
    obtain ⟨fuel, rfl⟩ : ∃ n, fuel = n + 1 := ⟨fuel - 1, by omega⟩
    simp only [List.length_cons, List.length_append] at hfuel
    rw [hc, List.cons_append] at hkey ⊢
    rw [lines?_elementHeader hvisible, hkey]
    show (openElement path es).bind _ = ((openElement path es).bind _).bind f
    rw [Option.bind_assoc]
    exact Option.bind_congr fun es _ => hlines fuel es (by rw [List.length_append]; omega)

/-- Sections with empty lines between them make what reading them does. -/
theorem makes_intercalate {ss : List Section} (hpaths : ∀ s ∈ ss, s.path ≠ [])
    (hentries : ∀ s ∈ ss, ∀ e ∈ s.entries, Plain e.2) (header : List String) :
    Makes header (['\n'].intercalate (ss.map text)) (loadAll ss) := by
  induction ss generalizing header with
  | nil => exact makes_nil header
  | cons s ss ih =>
    have hpath := hpaths s List.mem_cons_self
    have hlines := hentries s List.mem_cons_self
    have hrest := ih (fun t ht => hpaths t (List.mem_cons_of_mem _ ht))
      (fun t ht => hentries t (List.mem_cons_of_mem _ ht)) s.path
    cases ss with
    | nil =>
      have htext : ['\n'].intercalate ([s].map text) = s.text ++ [] := by
        simp [List.intercalate]
      rw [htext]
      exact makes hpath hlines (makes_nil s.path) header
    | cons t ss =>
      have htext : ['\n'].intercalate ((s :: t :: ss).map text) =
          s.text ++ '\n' :: ['\n'].intercalate ((t :: ss).map text) := by
        simp [List.intercalate]
      rw [htext]
      exact makes hpath hlines hrest.newline header

end Section

theorem Neat.plain_of_mem_own {es : List (String × Toml)} (h : ∀ e ∈ es, Neat e.2) :
    ∀ e ∈ own es, Plain e.2 := by
  intro e he
  obtain ⟨he, hchild⟩ := List.mem_filter.1 he
  have hneat := h e he
  generalize e.2 = v at hchild hneat
  cases hneat with
  | plain h => exact h
  | table => cases hchild
  | @tables vs htables _ =>
    cases vs with
    | nil => exact .array fun v hv => absurd hv List.not_mem_nil
    | cons v vs =>
      have hall : isChild (.array (v :: vs)) = true := List.all_eq_true.2 htables
      rw [hall] at hchild
      cases hchild

namespace Section

mutual

theorem plain_of_mem_ofValue {v : Toml} (hv : Neat v) {s : Section} (hs : s ∈ ofValue v) :
    ∀ e ∈ s.entries, Plain e.2 := by
  match v with
  | .table es =>
    rw [ofValue, List.mem_append] at hs
    rcases hs with hs | hs
    · split at hs
      · cases hs
      · rw [List.mem_singleton.1 hs]
        exact Neat.plain_of_mem_own hv.values
    · exact plain_of_mem_ofEntries hv.values hs
  | .array vs =>
    rw [ofValue] at hs
    split at hs
    · exact plain_of_mem_ofItems hv.items hs
    · cases hs

theorem plain_of_mem_ofEntries {es : List (String × Toml)} (hes : ∀ e ∈ es, Neat e.2) {s : Section}
    (hs : s ∈ ofEntries es) : ∀ e ∈ s.entries, Plain e.2 := by
  match es with
  | (k, v) :: es =>
    rw [ofEntries, List.mem_append] at hs
    rcases hs with hs | hs
    · obtain ⟨t, ht, rfl⟩ := List.mem_map.1 hs
      have hentries := plain_of_mem_ofValue (hes (k, v) List.mem_cons_self) ht
      exact hentries
    · exact plain_of_mem_ofEntries (fun e he => hes e (List.mem_cons_of_mem _ he)) hs

theorem plain_of_mem_ofItems {vs : List Toml} (hvs : ∀ v ∈ vs, Neat v) {s : Section}
    (hs : s ∈ ofItems vs) : ∀ e ∈ s.entries, Plain e.2 := by
  match vs with
  | .table es :: vs =>
    have hes := (hvs _ List.mem_cons_self).values
    rw [ofItems, List.mem_cons, List.mem_append] at hs
    rcases hs with rfl | hs | hs
    · exact Neat.plain_of_mem_own hes
    · exact plain_of_mem_ofEntries hes hs
    · exact plain_of_mem_ofItems (fun v hv => hvs v (List.mem_cons_of_mem _ hv)) hs
  | .array _ :: vs | .string _ :: vs | .integer _ :: vs | .float _ :: vs | .bool _ :: vs
  | .time _ :: vs =>
    have hrest : ∀ v ∈ vs, Neat v := fun v hv => hvs v (List.mem_cons_of_mem _ hv)
    exact plain_of_mem_ofItems hrest hs

end

end Section

/-! ## documents -/

theorem entryLines_eq_nil {es : List (String × Toml)} : Section.entryLines es = [] ↔ es = [] := by
  cases es with
  | nil => simp [Section.entryLines]
  | cons e es => simp [Section.entryLines]

/-- The text of a document: its own lines, and its sections. -/
theorem toChars_eq (es : List (String × Toml)) :
    toChars es = ['\n'].intercalate ((if own es = [] then [] else [Section.entryLines (own es)]) ++
      (Section.ofEntries es).map Section.text) := by
  have hchildren : childSections [] es = (Section.ofEntries es).map Section.text :=
    Section.childSections_eq [] es
  have htext : ownLines es = Section.entryLines (own es) := rfl
  simp only [toChars, htext, hchildren, entryLines_eq_nil]

theorem head?_intercalate {c : Char} {cs : List Char} (sep : List Char) (xs : List (List Char)) :
    (sep.intercalate ((c :: cs) :: xs)).head? = some c := by
  cases xs <;> simp [List.intercalate]

/-- The text of a document has no byte order mark. -/
theorem head?_toChars (es : List (String × Toml)) : (toChars es).head? ≠ some '\uFEFF' := by
  rw [toChars_eq]
  split_ifs with hown
  · cases Section.ofEntries es with
    | nil => simp [List.intercalate]
    | cons s ss =>
      have htext : ∃ cs, s.text = '[' :: cs := by
        rw [Section.text]
        split <;> exact ⟨_, rfl⟩
      obtain ⟨cs, htext⟩ := htext
      rw [List.nil_append, List.map_cons, htext, head?_intercalate]
      decide
  · obtain ⟨e, own, he⟩ := List.exists_cons_of_ne_nil hown
    obtain ⟨c, cs, hk, hc⟩ := exists_cons_keyForm e.1
    have htext : ∃ cs, Section.entryLines (e :: own) = c :: cs := by
      simp [Section.entryLines, hk]
    obtain ⟨cs, htext⟩ := htext
    rw [he, htext, List.singleton_append, head?_intercalate]
    rintro ⟨⟩
    revert hc
    decide

/-- The lines of a document make its own entries and then its tables. -/
theorem makes_toChars {es : List (String × Toml)} (h : ∀ e ∈ es, Neat e.2) :
    Makes [] (toChars es) fun made =>
      (Section.defineIn ⟨false, [], own es⟩ made).bind
        (Section.loadAll (Section.ofEntries es)) := by
  have htables := Section.makes_intercalate
    (fun s hs => Section.path_ne_nil_of_mem_ofEntries hs)
    (fun s hs => Section.plain_of_mem_ofEntries h hs) []
  have hown := Neat.plain_of_mem_own h
  rw [toChars_eq]
  split_ifs with hnil
  · rw [hnil]
    exact htables
  · cases hsections : Section.ofEntries es with
    | nil =>
      have htext : ['\n'].intercalate ([Section.entryLines (own es)] ++ [].map Section.text) =
          Section.entryLines (own es) ++ [] := by
        simp [List.intercalate]
      rw [htext]
      exact (makes_nil []).entries hown
    | cons s ss =>
      have htext :
          ['\n'].intercalate ([Section.entryLines (own es)] ++ (s :: ss).map Section.text) =
            Section.entryLines (own es) ++
              '\n' :: ['\n'].intercalate ((s :: ss).map Section.text) := by
        simp [List.intercalate]
      rw [hsections] at htables
      rw [htext]
      exact htables.newline.entries hown

/-- A document reads back, in order. -/
theorem read?_write {es : List (String × Toml)} (h : Neat (.table es)) :
    read? (write es) = some (own es ++ arrangeChildren es) := by
  have hkeys := h.own_append_children
  have hown : Section.defineIn ⟨false, [], own es⟩ [] = some (Draft.ofOwn (own es)) :=
    Section.defineIn_nil (List.nodup_append.1 hkeys).1
  have htables := Section.loadAll_ofEntries _ h.values (by rwa [Draft.map_fst_ofOwn])
  have hlines := makes_toChars h.values ((toChars es).length + 1) [] (Nat.lt_succ_self _)
  rw [read?, write, String.toList_ofList, ofChars?]
  · simp only [hlines, hown, Option.bind_some, htables, Option.map_some,
      Draft.finishEntries_append, Draft.finishEntries_ofOwn, Draft.finishEntries_ofChildren]
  · intro rest heq
    exact head?_toChars es (by rw [heq, List.head?_cons])

end HttpChain.Toml
