import HttpChain.Proofs.Toml.Values

/-!
# HttpChain.Proofs.Toml.Sections

A document as the sections that it is written in, and what becomes of them when
they are read: one section after the other opens its table and defines its
entries there.  From the sections of a document come its own entries and, behind
them, its tables (`loadAll_ofEntries`).
-/

namespace HttpChain.Toml

/-! ## documents in order -/

/-- The entries of a table that are written in the table itself. -/
def own (es : List (String × Toml)) : List (String × Toml) := es.filter fun e => !isChild e.2

mutual

/-- A value as it is read again: in each table the plain values come first, and
the tables and arrays of tables behind them. -/
def arrange : Toml → Toml
  | table es => .table (own es ++ arrangeChildren es)
  | array vs => if isChild (.array vs) then .array (arrangeItems vs) else .array vs
  | v => v

/-- The tables and arrays of tables of a table. -/
def arrangeChildren : List (String × Toml) → List (String × Toml)
  | [] => []
  | (k, v) :: es => if isChild v then (k, arrange v) :: arrangeChildren es else arrangeChildren es

/-- The tables of an array. -/
def arrangeItems : List Toml → List Toml
  | [] => []
  | v :: vs => arrange v :: arrangeItems vs

end

/-- Tables in which no key stands twice, and whose other values are plain. -/
inductive Neat : Toml → Prop
  | plain {v : Toml} (h : Plain v) : Neat v
  | table {es : List (String × Toml)} (keys : (es.map Prod.fst).Nodup)
      (values : ∀ e ∈ es, Neat e.2) : Neat (.table es)
  | tables {vs : List Toml} (tables : ∀ v ∈ vs, isTable v = true) (items : ∀ v ∈ vs, Neat v) :
    Neat (.array vs)

/-! ## sections -/

/-- A section: the path of the table that it opens, which may be the next one of
an array, and the entries that it defines there. -/
structure Section where
  element : Bool
  path : List String
  entries : List (String × Toml)

namespace Section

/-- A section of a table, seen from above the path of the table. -/
def under (path : List String) (s : Section) : Section := { s with path := path ++ s.path }

mutual

/-- The sections of a value, seen from the value. -/
def ofValue : Toml → List Section
  | table es =>
    (if es ≠ [] ∧ es.all (fun e => isChild e.2) then [] else [⟨false, [], own es⟩]) ++ ofEntries es
  | array vs => if isChild (.array vs) then ofItems vs else []
  | _ => []

/-- The sections of the tables among the entries of a table. -/
def ofEntries : List (String × Toml) → List Section
  | [] => []
  | (k, v) :: es => (ofValue v).map (under [k]) ++ ofEntries es

/-- The sections of the tables of an array. -/
def ofItems : List Toml → List Section
  | [] => []
  | table es :: vs => ⟨true, [], own es⟩ :: (ofEntries es ++ ofItems vs)
  | _ :: vs => ofItems vs

end

/-! ## the text of sections -/

/-- The lines of entries. -/
def entryLines (es : List (String × Toml)) : List Char :=
  es.flatMap fun (k, v) => keyForm k ++ " = ".toList ++ valueForm v ++ ['\n']

/-- The text of a section. -/
def text (s : Section) : List Char :=
  (if s.element then elementHeader s.path else header s.path) ++ entryLines s.entries

theorem under_append (p q : List String) (s : Section) :
    s.under (p ++ q) = (s.under q).under p := by
  rw [under, under, under, List.append_assoc]

mutual

/-- The text of a table is made of its sections, all below its path. -/
theorem tableSections_eq (path : List String) (v : Toml) :
    tableSections path v = (ofValue v).map fun s => (s.under path).text := by
  cases v with
  | table es =>
    rw [tableSections, ofValue, List.map_append, childSections_eq path es]
    split
    · rfl
    · rw [List.map_singleton, under, List.append_nil]
      rfl
  | array vs =>
    rw [tableSections, ofValue]
    split
    · exact elementSections_eq path vs
    · rfl
  | string s => rfl
  | integer n => rfl
  | float x => rfl
  | bool b => rfl
  | time text => rfl

/-- The text of the tables in a table is made of their sections, in order. -/
theorem childSections_eq (path : List String) (es : List (String × Toml)) :
    childSections path es = (ofEntries es).map fun s => (s.under path).text := by
  match es with
  | [] => rfl
  | (k, v) :: es =>
    rw [childSections, ofEntries, List.map_append, childSections_eq path es,
      tableSections_eq (path ++ [k]) v, List.map_map]
    simp only [under_append]
    rfl

/-- The text of an array of tables is made of the sections of its elements, in order. -/
theorem elementSections_eq (path : List String) (vs : List Toml) :
    elementSections path vs = (ofItems vs).map fun s => (s.under path).text := by
  match vs with
  | [] => rfl
  | .table es :: vs =>
    rw [elementSections, ofItems, List.map_cons, List.map_append, childSections_eq path es,
      elementSections_eq path vs, under, List.append_nil]
    rfl
  | .array _ :: vs | .string _ :: vs | .integer _ :: vs | .float _ :: vs | .bool _ :: vs
  | .time _ :: vs => exact elementSections_eq path vs

end

end Section

/-! ## tables under construction -/

namespace Draft

/-- The finished values of entries. -/
def ofOwn (es : List (String × Toml)) : Entries := es.map fun e => (e.1, .done e.2)

mutual

/-- What becomes of a value. -/
def ofValue : Toml → Draft
  | .table es =>
    .table (if es ≠ [] ∧ es.all (fun e => isChild e.2) then .path else .header)
      (ofOwn (own es) ++ ofChildren es)
  | .array vs => if isChild (.array vs) then .tables (ofItems vs) else .done (.array vs)
  | v => .done v

/-- What becomes of the tables and arrays of tables of a table. -/
def ofChildren : List (String × Toml) → Entries
  | [] => []
  | (k, v) :: es => if isChild v then (k, ofValue v) :: ofChildren es else ofChildren es

/-- What becomes of the tables of an array. -/
def ofItems : List Toml → List Entries
  | [] => []
  | .table es :: vs => (ofOwn (own es) ++ ofChildren es) :: ofItems vs
  | _ :: vs => ofItems vs

end

theorem map_fst_ofOwn (es : List (String × Toml)) : (ofOwn es).map Prod.fst = es.map Prod.fst := by
  rw [ofOwn, List.map_map]
  rfl

variable {k : String} {ks : List String} {d d' : Draft} {es : Entries}
  {f : Entries → Option Entries}

/-- A new entry is found at its key. -/
theorem get?_append_singleton (h : k ∉ es.map Prod.fst) : get? k (es ++ [(k, d)]) = some d := by
  induction es with
  | nil => rw [List.nil_append, get?, if_pos rfl]
  | cons e es ih =>
    rw [List.map_cons, List.mem_cons, not_or] at h
    rw [List.cons_append, get?, if_neg (Ne.symm h.1), ih h.2]

/-- Nothing is found at a key that is not there. -/
theorem get?_eq_none (h : k ∉ es.map Prod.fst) : get? k es = none := by
  induction es with
  | nil => rfl
  | cons e es ih =>
    rw [List.map_cons, List.mem_cons, not_or] at h
    rw [get?, if_neg (Ne.symm h.1), ih h.2]

/-- A new entry goes to the end. -/
theorem put_eq_append (h : k ∉ es.map Prod.fst) : put k d es = es ++ [(k, d)] := by
  induction es with
  | nil => rfl
  | cons e es ih =>
    rw [List.map_cons, List.mem_cons, not_or] at h
    rw [put, if_neg (Ne.symm h.1), ih h.2, List.cons_append]

/-- The last entry is replaced where it is. -/
theorem put_append_singleton (h : k ∉ es.map Prod.fst) :
    put k d' (es ++ [(k, d)]) = es ++ [(k, d')] := by
  induction es with
  | nil => rw [List.nil_append, put, if_pos rfl, List.nil_append]
  | cons e es ih =>
    rw [List.map_cons, List.mem_cons, not_or] at h
    rw [List.cons_append, put, if_neg (Ne.symm h.1), ih h.2, List.cons_append]

/-! ## the table at the end of a path -/

/-- Change the table at the end of a path below headers, however it came about. -/
def reach (f : Entries → Option Entries) (path : List String) (es : Entries) : Option Entries :=
  within .path (fun _ => f) .header path es

/-- To go along a header is to reach through the entries. -/
theorem within_path_eq_reach (o : Origin) : within .path (fun _ => f) o ks es = reach f ks es := by
  cases ks with
  | nil => rfl
  | cons k ks => rw [reach, within, within]

theorem reach_nil : reach f [] es = f es := rfl

/-- A draft whose open table has the given entries. -/
def Opens (k : String) (es : Entries) (draft : Entries → Draft) : Prop :=
  ∀ f ks sub, reach f (k :: ks) (es ++ [(k, draft sub)]) =
    (reach f ks sub).map fun sub => es ++ [(k, draft sub)]

/-- A new table is opened behind the entries that are there. -/
theorem opens_table (h : k ∉ es.map Prod.fst) (o : Origin) : Opens k es (.table o) := by
  intro f ks sub
  rw [reach, within, get?_append_singleton h]
  simp only [reduceCtorEq, false_and, if_false, put_append_singleton h]
  rw [within_path_eq_reach]

/-- Below an array of tables it is the last one that is open. -/
theorem opens_tables (h : k ∉ es.map Prod.fst) (items : List Entries) :
    Opens k es fun last => .tables (items ++ [last]) := by
  intro f ks sub
  rw [reach, within, get?_append_singleton h]
  simp only [List.getLast?_concat, List.dropLast_concat, put_append_singleton h]
  rw [within_path_eq_reach]

/-- A path that leads through a new table makes it. -/
theorem reach_cons_of_not_mem (h : k ∉ es.map Prod.fst) :
    reach f (k :: ks) es = (reach f ks []).map fun sub => es ++ [(k, .table .path sub)] := by
  rw [reach, within, get?_eq_none h]
  simp only [put_eq_append h]
  rw [within_path_eq_reach]

/-- Make the table of a header. -/
def newTable (k : String) (es : Entries) : Option Entries :=
  match get? k es with
  | none => some (es ++ [(k, .table .header [])])
  | some (.table .path sub) => some (put k (.table .header sub) es)
  | some _ => none

/-- Make the next table of an array. -/
def newElement (k : String) (es : Entries) : Option Entries :=
  match get? k es with
  | none => some (es ++ [(k, .tables [[]])])
  | some (.tables items) => some (put k (.tables (items ++ [[]])) es)
  | some _ => none

/-- A header opens its last key in what the others lead to. -/
theorem openTable_concat (ks : List String) (k : String) (es : Entries) :
    openTable (ks ++ [k]) es = reach (newTable k) ks es := by
  simp only [openTable, List.getLast?_concat, List.dropLast_concat]
  rfl

/-- The header of an element opens a new one under its last key in what the others lead to. -/
theorem openElement_concat (ks : List String) (k : String) (es : Entries) :
    openElement (ks ++ [k]) es = reach (newElement k) ks es := by
  simp only [openElement, List.getLast?_concat, List.dropLast_concat]
  rfl

/-- A key without dots defines a new entry at the end. -/
theorem define_singleton {v : Toml} (h : k ∉ es.map Prod.fst) :
    define [k] v es = some (es ++ [(k, .done v)]) := by
  have hnone := get?_eq_none h
  simp [define, within, hnone]

end Draft

/-! ## reading sections -/

namespace Section

open Draft

/-- Open the table of a section. -/
def openIn (s : Section) (es : Entries) : Option Entries :=
  if s.element then openElement s.path es else openTable s.path es

/-- Define the entries of a section. -/
def defineIn (s : Section) (es : Entries) : Option Entries :=
  s.entries.foldlM (fun es e => defineBelow s.path [e.1] e.2 es) es

/-- Read a section. -/
def loadIn (s : Section) (es : Entries) : Option Entries := (s.openIn es).bind s.defineIn

/-- Read sections, one after the other. -/
def loadAll (ss : List Section) (es : Entries) : Option Entries :=
  ss.foldlM (fun es s => s.loadIn es) es

variable {k : String} {es : Entries} {draft : Entries → Draft} {s : Section} {ss : List Section}

/-- Sections are loaded in order. -/
theorem loadAll_append (ss ts : List Section) (es : Entries) :
    loadAll (ss ++ ts) es = (loadAll ss es).bind (loadAll ts) :=
  List.foldlM_append

/-- A section is opened in the same way wherever its path is continued from. -/
theorem openIn_eq (h : s.path ≠ []) : ∃ f ks, (∀ es, s.openIn es = reach f ks es) ∧
    ∀ k es, (s.under [k]).openIn es = reach f (k :: ks) es := by
  obtain ⟨element, path, entries⟩ := s
  obtain ⟨ks, l, rfl⟩ : ∃ ks l, path = ks ++ [l] :=
    ⟨_, _, (List.dropLast_concat_getLast h).symm⟩
  cases element with
  | false => exact ⟨_, _, openTable_concat ks l, fun k => openTable_concat (k :: ks) l⟩
  | true => exact ⟨_, _, openElement_concat ks l, fun k => openElement_concat (k :: ks) l⟩

/-- What a section defines below a table does not depend on where that table
is. -/
theorem defineIn_under (h : Opens k es draft) (s : Section) (sub : Entries) :
    (s.under [k]).defineIn (es ++ [(k, draft sub)]) =
      (s.defineIn sub).map fun sub => es ++ [(k, draft sub)] := by
  obtain ⟨element, path, entries⟩ := s
  simp only [defineIn, under]
  induction entries generalizing sub with
  | nil => rfl
  | cons e entries ih =>
    have hone : defineBelow ([k] ++ path) [e.1] e.2 (es ++ [(k, draft sub)]) =
        (defineBelow path [e.1] e.2 sub).map fun sub => es ++ [(k, draft sub)] := h _ path sub
    rw [List.foldlM_cons, List.foldlM_cons, hone]
    cases hsub : defineBelow path [e.1] e.2 sub with
    | none => rfl
    | some sub' => exact ih sub'

/-- A section below an open entry is loaded into that entry. -/
theorem loadIn_under (h : Opens k es draft) (hs : s.path ≠ []) (sub : Entries) :
    (s.under [k]).loadIn (es ++ [(k, draft sub)]) =
      (s.loadIn sub).map fun sub => es ++ [(k, draft sub)] := by
  obtain ⟨f, ks, hopen, hunder⟩ := openIn_eq hs
  rw [loadIn, loadIn, hunder, hopen, h]
  cases hsub : reach f ks sub with
  | none => rfl
  | some sub' => exact defineIn_under h s sub'

/-- A section below a key that is not there makes its entry first. -/
theorem loadIn_under_of_not_mem (h : k ∉ es.map Prod.fst) (hs : s.path ≠ []) :
    (s.under [k]).loadIn es = (s.loadIn []).map fun sub => es ++ [(k, .table .path sub)] := by
  obtain ⟨f, ks, hopen, hunder⟩ := openIn_eq hs
  rw [loadIn, loadIn, hunder, hopen, reach_cons_of_not_mem h]
  cases hsub : reach f ks [] with
  | none => rfl
  | some sub' => exact defineIn_under (opens_table h .path) s sub'

/-- Sections below an open entry are loaded into that entry, one after the other. -/
theorem loadAll_under (h : Opens k es draft) (hss : ∀ s ∈ ss, s.path ≠ []) (sub : Entries) :
    loadAll (ss.map (under [k])) (es ++ [(k, draft sub)]) =
      (loadAll ss sub).map fun sub => es ++ [(k, draft sub)] := by
  simp only [loadAll]
  induction ss generalizing sub with
  | nil => rfl
  | cons s ss ih =>
    rw [List.map_cons, List.foldlM_cons, List.foldlM_cons,
      loadIn_under h (hss s List.mem_cons_self)]
    cases hsub : s.loadIn sub with
    | none => rfl
    | some sub' => exact ih (fun t ht => hss t (List.mem_cons_of_mem _ ht)) sub'

/-- Sections below a table without a header make the table. -/
theorem loadAll_under_of_not_mem (h : k ∉ es.map Prod.fst) (hss : ∀ s ∈ ss, s.path ≠ [])
    (hne : ss ≠ []) :
    loadAll (ss.map (under [k])) es =
      (loadAll ss []).map fun sub => es ++ [(k, .table .path sub)] := by
  obtain ⟨s, ss, rfl⟩ := List.exists_cons_of_ne_nil hne
  rw [loadAll, loadAll, List.map_cons, List.foldlM_cons, List.foldlM_cons,
    loadIn_under_of_not_mem h (hss s List.mem_cons_self)]
  cases hsub : s.loadIn [] with
  | none => rfl
  | some sub' =>
    exact loadAll_under (opens_table h .path) (fun t ht => hss t (List.mem_cons_of_mem _ ht)) sub'

/-- A section defines its entries behind those that its table has. -/
theorem defineIn_nil {element : Bool} {entries : List (String × Toml)} {sub : Entries}
    (h : (sub.map Prod.fst ++ entries.map Prod.fst).Nodup) :
    defineIn ⟨element, [], entries⟩ sub = some (sub ++ ofOwn entries) := by
  simp only [defineIn]
  induction entries generalizing sub with
  | nil => rw [ofOwn, List.map_nil, List.append_nil]; rfl
  | cons e entries ih =>
    have hk : e.1 ∉ sub.map Prod.fst := by
      intro hmem
      exact (List.nodup_append.1 h).2.2 _ hmem _ List.mem_cons_self rfl
    have hone : defineBelow [] [e.1] e.2 sub = some (sub ++ [(e.1, .done e.2)]) :=
      define_singleton hk
    rw [List.foldlM_cons, hone]
    refine (ih ?_).trans ?_
    · simpa using h
    · rw [ofOwn, ofOwn, List.append_assoc]
      rfl

/-- The section of a table makes it, with its entries. -/
theorem loadIn_header (h : k ∉ es.map Prod.fst) {entries : List (String × Toml)}
    (hentries : (entries.map Prod.fst).Nodup) :
    loadIn ⟨false, [k], entries⟩ es = some (es ++ [(k, .table .header (ofOwn entries))]) := by
  have hopen : openIn ⟨false, [k], entries⟩ es = some (es ++ [(k, .table .header [])]) := by
    refine (openTable_concat [] k es).trans ?_
    rw [reach_nil, newTable, get?_eq_none h]
  have hdefine := defineIn_under (opens_table h .header) ⟨false, [], entries⟩ []
  rw [defineIn_nil (by simpa using hentries)] at hdefine
  rw [loadIn, hopen]
  exact hdefine

/-- The entries of a table with the tables of an array so far. -/
def withTables (k : String) (items : List Entries) (es : Entries) : Entries :=
  if items = [] then es else es ++ [(k, .tables items)]

/-- The section of the next table of an array makes it, with its entries. -/
theorem loadIn_element (h : k ∉ es.map Prod.fst) (items : List Entries)
    {entries : List (String × Toml)} (hentries : (entries.map Prod.fst).Nodup) :
    loadIn ⟨true, [k], entries⟩ (withTables k items es) =
      some (es ++ [(k, .tables (items ++ [ofOwn entries]))]) := by
  have hopen : openIn ⟨true, [k], entries⟩ (withTables k items es) =
      some (es ++ [(k, .tables (items ++ [[]]))]) := by
    refine (openElement_concat [] k _).trans ?_
    rw [reach_nil, newElement, withTables]
    split_ifs with hitems
    · rw [get?_eq_none h, hitems]
      rfl
    · rw [get?_append_singleton h]
      simp only [put_append_singleton h]
  have hdefine := defineIn_under (opens_tables h items) ⟨false, [], entries⟩ []
  rw [defineIn_nil (by simpa using hentries)] at hdefine
  rw [loadIn, hopen]
  exact hdefine

end Section

/-! ## reading a document -/

/-- The values of a neat table are neat. -/
theorem Neat.values {es : List (String × Toml)} (h : Neat (.table es)) : ∀ e ∈ es, Neat e.2 := by
  cases h with
  | plain h => cases h with
    | scalar h => cases h
  | table _ hvalues => exact hvalues

/-- The keys of a neat table are distinct. -/
theorem Neat.keys {es : List (String × Toml)} (h : Neat (.table es)) :
    (es.map Prod.fst).Nodup := by
  cases h with
  | plain h => cases h with
    | scalar h => cases h
  | table hkeys _ => exact hkeys

/-- The elements of a neat array are neat. -/
theorem Neat.items {vs : List Toml} (h : Neat (.array vs)) : ∀ v ∈ vs, Neat v := by
  cases h with
  | plain h => cases h with
    | scalar h => cases h
    | array h => exact fun v hv => .plain (.scalar (h v hv))
  | tables _ hitems => exact hitems

/-- The entries of a table that are written under headers of their own. -/
def children (es : List (String × Toml)) : List (String × Toml) := es.filter fun e => isChild e.2

/-- The keys of a neat table stay distinct when its children go behind its own entries. -/
theorem Neat.own_append_children {es : List (String × Toml)} (h : Neat (.table es)) :
    ((own es).map Prod.fst ++ (children es).map Prod.fst).Nodup := by
  rw [← List.map_append]
  have hperm : (own es ++ children es).Perm es :=
    List.perm_append_comm.trans (List.filter_append_perm _ es)
  exact (hperm.map Prod.fst).nodup_iff.2 h.keys

namespace Section

open Draft

/-- The sections of entries have headers. -/
theorem path_ne_nil_of_mem_ofEntries {es : List (String × Toml)} {s : Section}
    (h : s ∈ ofEntries es) : s.path ≠ [] := by
  induction es with
  | nil => cases h
  | cons e es ih =>
    rw [ofEntries, List.mem_append] at h
    rcases h with h | h
    · obtain ⟨t, -, rfl⟩ := List.mem_map.1 h
      simp [under]
    · exact ih h

/-- The sections of the tables of an open table make them there. -/
theorem loadAll_ofEntries_under {k : String} {es : Entries} {draft : Entries → Draft}
    (h : Opens k es draft) {entries : List (String × Toml)} {sub made : Entries}
    (hload : loadAll (ofEntries entries) sub = some made) :
    loadAll ((ofEntries entries).map (under [k])) (es ++ [(k, draft sub)]) =
      some (es ++ [(k, draft made)]) := by
  rw [loadAll_under h (fun s => path_ne_nil_of_mem_ofEntries), hload]
  rfl

/-- A value on a line of its own has no section. -/
theorem ofValue_of_not_isChild {v : Toml} (h : isChild v = false) : ofValue v = [] := by
  cases v with
  | table es => cases h
  | array vs => rw [ofValue, if_neg (by simp [h])]
  | string s => rfl
  | integer n => rfl
  | float x => rfl
  | bool b => rfl
  | time text => rfl

/-- A table or an array of tables has a section somewhere. -/
theorem ofValue_ne_nil {v : Toml} (h : isChild v = true) : ofValue v ≠ [] := by
  match v, h with
  | .table [], _ => simp [ofValue]
  | .table ((k, w) :: es), _ =>
    rw [ofValue]
    split_ifs with hbare
    · have hw : isChild w = true := by
        have hall := hbare.2
        rw [List.all_cons, Bool.and_eq_true] at hall
        exact hall.1
      have hne := ofValue_ne_nil hw
      simp [ofEntries, hne]
    · simp
  | .array (.table es :: vs), h => simp [ofValue, ofItems, h]

theorem loadAll_cons (s : Section) (ss : List Section) (es : Entries) :
    loadAll (s :: ss) es = (s.loadIn es).bind (loadAll ss) := by
  rw [loadAll, List.foldlM_cons]
  rfl

mutual

/-- The sections of a table or an array of tables make it. -/
theorem loadAll_ofValue {k : String} {v : Toml} {es : Entries} (hv : Neat v)
    (hchild : isChild v = true) (h : k ∉ es.map Prod.fst) :
    loadAll ((ofValue v).map (under [k])) es = some (es ++ [(k, Draft.ofValue v)]) := by
  match v with
  | .table entries =>
    have hkeys := hv.own_append_children
    rw [ofValue, Draft.ofValue]
    split_ifs with hbare
    · have hown : own entries = [] := by
        rw [own, List.filter_eq_nil_iff]
        intro e he
        simp [List.all_eq_true.1 hbare.2 e he]
      have hsections : ofEntries entries ≠ [] := by
        intro hnil
        have hne := ofValue_ne_nil (v := .table entries) rfl
        rw [ofValue, if_pos hbare, List.nil_append] at hne
        exact hne hnil
      have hload := loadAll_ofEntries [] hv.values (List.nodup_append.1 hkeys).2.1
      rw [List.nil_append, loadAll_under_of_not_mem h (fun s => path_ne_nil_of_mem_ofEntries)
        hsections, hload, hown]
      rfl
    · have hheader := loadIn_header h (List.nodup_append.1 hkeys).1
      have hload := loadAll_ofEntries _ hv.values (by rwa [map_fst_ofOwn])
      have hsections := loadAll_ofEntries_under (opens_table h .header) hload
      rw [List.singleton_append, List.map_cons, loadAll_cons]
      show (loadIn ⟨false, [k], own entries⟩ es).bind _ = _
      rw [hheader]
      exact hsections
  | .array vs =>
    have hitems : Draft.ofItems vs ≠ [] := by
      match vs, hchild with
      | .table entries :: vs, _ => simp [Draft.ofItems]
    have hload := loadAll_ofItems [] hv.items h
    rw [ofValue, if_pos hchild, Draft.ofValue, if_pos hchild]
    rwa [withTables, if_pos rfl, withTables, List.nil_append, if_neg hitems] at hload

/-- The sections of entries load as these entries, behind those that are there. -/
theorem loadAll_ofEntries {es : List (String × Toml)} (made : Entries)
    (hvalues : ∀ e ∈ es, Neat e.2)
    (hkeys : (made.map Prod.fst ++ (children es).map Prod.fst).Nodup) :
    loadAll (ofEntries es) made = some (made ++ ofChildren es) := by
  match es with
  | [] => rw [ofChildren, List.append_nil]; rfl
  | (k, v) :: es =>
    have hrest : ∀ e ∈ es, Neat e.2 := fun e he => hvalues e (List.mem_cons_of_mem _ he)
    rw [ofEntries, ofChildren, loadAll_append]
    split_ifs with hchild
    · have hchildren : children ((k, v) :: es) = (k, v) :: children es :=
        List.filter_cons_of_pos hchild
      have hk : k ∉ made.map Prod.fst := by
        intro hmem
        rw [hchildren] at hkeys
        exact (List.nodup_append.1 hkeys).2.2 _ hmem _ List.mem_cons_self rfl
      rw [loadAll_ofValue (hvalues _ List.mem_cons_self) hchild hk, Option.bind_some,
        loadAll_ofEntries _ hrest, List.append_assoc]
      · rfl
      · simpa [hchildren] using hkeys
    · have hchildren : children ((k, v) :: es) = children es := List.filter_cons_of_neg hchild
      rw [ofValue_of_not_isChild (Bool.eq_false_iff.2 hchild)]
      exact loadAll_ofEntries made hrest (by rwa [hchildren] at hkeys)

/-- The sections of elements load as these elements, behind those that are there. -/
theorem loadAll_ofItems {k : String} {vs : List Toml} {es : Entries} (items : List Entries)
    (hvs : ∀ v ∈ vs, Neat v) (h : k ∉ es.map Prod.fst) :
    loadAll ((ofItems vs).map (under [k])) (withTables k items es) =
      some (withTables k (items ++ Draft.ofItems vs) es) := by
  match vs with
  | [] => rw [Draft.ofItems, List.append_nil]; rfl
  | .table entries :: vs =>
    have hrest : ∀ v ∈ vs, Neat v := fun v hv => hvs v (List.mem_cons_of_mem _ hv)
    have hentries := hvs _ List.mem_cons_self
    have hkeys := hentries.own_append_children
    have helement := loadIn_element h items (List.nodup_append.1 hkeys).1
    have hload := loadAll_ofEntries _ hentries.values (by rwa [map_fst_ofOwn])
    have hsections := loadAll_ofEntries_under (opens_tables h items) hload
    rw [ofItems, List.map_cons, List.map_append, loadAll_cons]
    show (loadIn ⟨true, [k], own entries⟩ _).bind _ = _
    rw [helement, Option.bind_some, loadAll_append, hsections, Option.bind_some]
    have hmore := loadAll_ofItems (items ++ [ofOwn (own entries) ++ ofChildren entries]) hrest h
    rw [withTables, if_neg (by simp), List.append_assoc] at hmore
    exact hmore
  | .array _ :: vs | .string _ :: vs | .integer _ :: vs | .float _ :: vs | .bool _ :: vs
  | .time _ :: vs =>
    have hrest : ∀ v ∈ vs, Neat v := fun v hv => hvs v (List.mem_cons_of_mem _ hv)
    show loadAll ((ofItems vs).map (under [k])) (withTables k items es) =
      some (withTables k (items ++ Draft.ofItems vs) es)
    exact loadAll_ofItems items hrest h

end

end Section

/-! ## finished documents -/

namespace Draft

theorem finishEntries_append (es fs : Entries) :
    finishEntries (es ++ fs) = finishEntries es ++ finishEntries fs := by
  induction es with
  | nil => rfl
  | cons e es ih => rw [List.cons_append, finishEntries, ih, finishEntries, List.cons_append]

/-- Values on lines of their own are what they were. -/
theorem finishEntries_ofOwn (es : List (String × Toml)) : finishEntries (ofOwn es) = es := by
  induction es with
  | nil => rfl
  | cons e es ih =>
    rw [ofOwn, List.map_cons, finishEntries, finish]
    exact congrArg (e :: ·) ih

mutual

/-- A value that is read comes out in order. -/
theorem finish_ofValue (v : Toml) : finish (ofValue v) = arrange v := by
  match v with
  | .table es =>
    rw [ofValue, finish, arrange, finishEntries_append, finishEntries_ofOwn,
      finishEntries_ofChildren es]
  | .array vs =>
    rw [ofValue, arrange]
    split_ifs with hchild
    · have htables : ∀ v ∈ vs, isTable v = true := by
        match vs, hchild with
        | v :: vs, h => exact List.all_eq_true.1 h
      rw [finish, finishItems_ofItems vs htables]
    · rfl
  | .string _ | .integer _ | .float _ | .bool _ | .time _ => rfl

/-- The children of a table are the ones they were, each arranged. -/
theorem finishEntries_ofChildren (es : List (String × Toml)) :
    finishEntries (ofChildren es) = arrangeChildren es := by
  match es with
  | [] => rfl
  | (k, v) :: es =>
    rw [ofChildren, arrangeChildren]
    split
    · rw [finishEntries, finish_ofValue v, finishEntries_ofChildren es]
    · exact finishEntries_ofChildren es

/-- The elements of an array of tables are the ones they were, each arranged. -/
theorem finishItems_ofItems (vs : List Toml) (h : ∀ v ∈ vs, isTable v = true) :
    finishItems (ofItems vs) = arrangeItems vs := by
  match vs with
  | [] => rfl
  | .table es :: vs =>
    have hrest := finishItems_ofItems vs fun v hv => h v (List.mem_cons_of_mem _ hv)
    rw [ofItems, finishItems, finishEntries_append, finishEntries_ofOwn,
      finishEntries_ofChildren es, hrest]
    rfl
  | .array _ :: vs | .string _ :: vs | .integer _ :: vs | .float _ :: vs | .bool _ :: vs
  | .time _ :: vs => cases h _ List.mem_cons_self

end

end Draft

end HttpChain.Toml
