import HttpChain.Proofs.Toml.Reordering

/-!
# HttpChain.Proofs.Config.Reading

Reading the document of a config gives the config back, in whatever order the
tables of the document have their entries.  What the document leaves out is
what reading puts in its place.
-/

namespace HttpChain

namespace Toml

/-! ## values -/

/-- However its tables are reordered, a value is read as the given one. -/
def Gives {α : Type} (read : Toml → Option α) (v : Toml) (a : α) : Prop :=
  ∀ w, Reordered v w → read w = some a

/-- A string is read as its text. -/
theorem gives_text (s : String) : Gives text? (.string s) s := by
  rintro w ⟨⟩
  rfl

/-- A string is read as its text where a number could stand as well. -/
theorem gives_scalarText (s : String) : Gives scalarText? (.string s) s := by
  rintro w ⟨⟩
  rfl

/-- A flag is read as it is. -/
theorem gives_bool (b : Bool) : Gives bool? (.bool b) b := by
  rintro w ⟨⟩
  rfl

/-- What is related to the images of a list is related to the list, the other way round. -/
theorem forall₂_of_map {α β γ : Type} {f : α → β} {R : β → γ → Prop} {S : γ → α → Prop}
    {as : List α} {cs : List γ} (h : List.Forall₂ R (as.map f) cs)
    (himp : ∀ a ∈ as, ∀ c, R (f a) c → S c a) : List.Forall₂ S cs as := by
  induction as generalizing cs with
  | nil => cases h; exact .nil
  | cons a as ih =>
    cases h with
    | cons hfirst hrest =>
      exact .cons (himp a List.mem_cons_self _ hfirst)
        (ih hrest fun b hb => himp b (List.mem_cons_of_mem _ hb))

/-- Items that are read one by one are read all at once. -/
theorem mapM_eq_some {α β : Type} {f : α → Option β} {as : List α} {bs : List β}
    (h : List.Forall₂ (fun a b => f a = some b) as bs) : as.mapM f = some bs := by
  induction h with
  | nil => rfl
  | cons hfirst _ ih => rw [List.mapM_cons, hfirst, ih]; rfl

section

variable {α : Type} {read : Toml → Option α} {f : α → Toml}

/-- An array is read item by item. -/
theorem gives_list {as : List α} (h : ∀ a ∈ as, Gives read (f a) a) :
    Gives (list? read) (.array (as.map f)) as := by
  intro w hw
  obtain ⟨ws, rfl, hws⟩ := hw.array_cases
  exact mapM_eq_some (forall₂_of_map hws h)

/-- A table of values of one kind is read whole, in any order. -/
theorem gives_dict {d : Dict α} (h : ∀ e ∈ d.toList, Gives read (f e.2) e.2) :
    Gives (dict? read) (.table (d.toList.map fun e => (e.1, f e.2))) d := by
  intro w hw
  obtain ⟨fs, gs, rfl, hentries, horder⟩ := hw.table_cases
  have hfs : List.Forall₂ (fun g e => (read g.2).map (fun v => (g.1, v)) = some e) fs d.toList :=
    forall₂_of_map hentries fun e he g hg => by rw [h e he g.2 hg.2, hg.1]; rfl
  obtain ⟨es, hgs, hes⟩ := List.perm_comp_forall₂ horder hfs
  show (gs.mapM fun e => (read e.2).map fun v => (e.1, v)).map Dict.ofList = some d
  rw [mapM_eq_some hgs, Option.map_some, Dict.ofList_of_perm hes]

end

/-- A table of texts is read as their map. -/
theorem gives_texts (d : Dict String) : Gives (dict? text?) (ofTexts d) d :=
  gives_dict fun e _ => gives_text e.2

/-- A table of texts is read as their map where numbers could stand as well. -/
theorem gives_scalarTexts (d : Dict String) : Gives (dict? scalarText?) (ofTexts d) d :=
  gives_dict fun e _ => gives_scalarText e.2

/-! ## fields -/

section

/-- A key is looked up in the first part of a table, and then in the second. -/
@[simp] theorem valueAt?_append (key : String) (es fs : List (String × Toml)) :
    valueAt? key (es ++ fs) = (valueAt? key es).or (valueAt? key fs) := by
  induction es with
  | nil => rfl
  | cons e es ih =>
    rw [List.cons_append, valueAt?, valueAt?]
    split
    · rfl
    · exact ih

/-- An optional entry has its value at its key, and nothing elsewhere. -/
@[simp] theorem valueAt?_optional (key name : String) (v : Option Toml) :
    valueAt? key (optional name v) = if name = key then v else none := by
  cases v <;> simp [optional, valueAt?]

/-- An entry that is left out under a condition has its value at its key otherwise. -/
@[simp] theorem valueAt?_unless (key name : String) (c : Prop) [Decidable c] (v : Toml) :
    valueAt? key (if c then [] else [(name, v)]) =
      if name = key then if c then none else some v else none := by
  split <;> simp [valueAt?]

@[simp] theorem valueAt?_texts (key name : String) (d : Dict String) :
    valueAt? key (texts name d) =
      if name = key then if d.isEmpty then none else some (ofTexts d) else none :=
  valueAt?_unless key name d.isEmpty (ofTexts d)

end

section

variable {α : Type} {read : Toml → Option α} {es gs : List (String × Toml)} {key : String}

/-- An entry that is always written is read back. -/
theorem required?_of_reordered (h : Reordered (.table es) (.table gs))
    (hkeys : (es.map Prod.fst).Nodup) {v : Toml} {a : α} (hvalue : valueAt? key es = some v)
    (hread : Gives read v a) : required? gs key read = some a := by
  have hrel := h.valueAt? hkeys key
  rw [hvalue] at hrel
  rw [required?]
  generalize valueAt? key gs = value at hrel ⊢
  cases hrel with
  | some hw => exact hread _ hw

/-- A field that is always written is read as its value, and its default does not matter. -/
theorem field?_of_written (h : Reordered (.table es) (.table gs))
    (hkeys : (es.map Prod.fst).Nodup) {v : Toml} {a : α} (hvalue : valueAt? key es = some v)
    (hread : Gives read v a) (default : α) : field? gs key read default = some a := by
  have hrequired := required?_of_reordered h hkeys hvalue hread
  rw [required?] at hrequired
  rw [field?]
  cases hgs : valueAt? key gs with
  | none => simp [hgs] at hrequired
  | some w => simpa [hgs] using hrequired

/-- An entry that is left out where it has its default is read back. -/
theorem field?_of_reordered (h : Reordered (.table es) (.table gs))
    (hkeys : (es.map Prod.fst).Nodup) {c : Prop} [Decidable c] {v : Toml} {a default : α}
    (hvalue : valueAt? key es = if c then none else some v) (hdefault : c → a = default)
    (hread : Gives read v a) : field? gs key read default = some a := by
  have hrel := h.valueAt? hkeys key
  rw [hvalue] at hrel
  rw [field?]
  generalize valueAt? key gs = value at hrel ⊢
  split at hrel
  · next hc =>
    cases hrel
    rw [hdefault hc]
  · cases hrel with
    | some hw => exact hread _ hw

/-- An entry that is left out where there is no value is read back. -/
theorem optional?_of_reordered (h : Reordered (.table es) (.table gs))
    (hkeys : (es.map Prod.fst).Nodup) {f : α → Toml} {a : Option α}
    (hvalue : valueAt? key es = a.map f) (hread : ∀ x, Gives read (f x) x) :
    optional? gs key read = some a := by
  have hrel := h.valueAt? hkeys key
  rw [hvalue] at hrel
  rw [optional?]
  generalize valueAt? key gs = value at hrel ⊢
  cases a with
  | none => cases hrel; rfl
  | some x =>
    cases hrel with
    | some hw =>
      show (read _).map some = _
      rw [hread x _ hw, Option.map_some]

end

/-- An optional entry has no key but its own. -/
theorem keys_optional (key : String) (v : Option Toml) :
    ((optional key v).map Prod.fst).Sublist [key] := by
  cases v <;> simp [optional]

/-- An entry that is left out under a condition has no key but its own. -/
theorem keys_unless (key : String) (c : Prop) [Decidable c] (v : Toml) :
    ((if c then [] else [(key, v)] : List (String × Toml)).map Prod.fst).Sublist [key] := by
  split <;> simp

/-- A table of texts that is left out if it is empty has no key but its own. -/
theorem keys_texts (key : String) (d : Dict String) :
    ((texts key d).map Prod.fst).Sublist [key] :=
  keys_unless key d.isEmpty (ofTexts d)

end Toml

/-! ## requests -/

open Toml

namespace RequestTemplate

/-- The entries of a saved request. -/
def entries (t : RequestTemplate) : List (String × Toml) :=
  [("method", .string t.method), ("url", .string t.url)] ++
  (if t.body = "" then [] else [("body", .string t.body)]) ++
  (if t.headers = [] then [] else [("headers", .array (t.headers.map .string))]) ++
  [("no_auth", .bool t.noAuth), ("no_headers", .bool t.noHeaders)] ++
  optional "extract_cookie" (t.extractCookie.map .string) ++
  texts "extract_to_config" t.extractToConfig

/-- A request is written under the keys of requests, in order and each at most once. -/
theorem keys_entries (t : RequestTemplate) : (t.entries.map Prod.fst).Sublist keys := by
  simp only [entries, List.map_append]
  have hbody := keys_unless "body" (t.body = "") (.string t.body)
  have hheaders := keys_unless "headers" (t.headers = []) (.array (t.headers.map .string))
  have hcookie := keys_optional "extract_cookie" (t.extractCookie.map .string)
  have hconfig := keys_texts "extract_to_config" t.extractToConfig
  exact (((((List.Sublist.refl ["method", "url"]).append hbody).append hheaders).append
    (List.Sublist.refl ["no_auth", "no_headers"])).append hcookie).append hconfig

/-- No key of a request is written twice. -/
theorem nodup_entries (t : RequestTemplate) : (t.entries.map Prod.fst).Nodup :=
  t.keys_entries.nodup (by decide)

/-- A saved request is read back. -/
theorem gives (t : RequestTemplate) : Gives ofToml? t.toToml t := by
  intro w h
  obtain ⟨fs, gs, rfl, -, -⟩ := h.table_cases
  have hkeys := t.nodup_entries
  have hmethod : field? gs "method" text? "GET" = some t.method :=
    field?_of_written h hkeys (by simp [valueAt?]) (gives_text _) _
  have hurl : required? gs "url" text? = some t.url :=
    required?_of_reordered h hkeys (by simp [valueAt?]) (gives_text _)
  have hbody : field? gs "body" text? "" = some t.body :=
    field?_of_reordered h hkeys (c := t.body = "") (by simp [valueAt?]) id (gives_text _)
  have hheaders : field? gs "headers" (list? text?) [] = some t.headers :=
    field?_of_reordered h hkeys (c := t.headers = []) (by simp [valueAt?]) id
      (gives_list fun _ _ => gives_text _)
  have hnoAuth : field? gs "no_auth" bool? false = some t.noAuth :=
    field?_of_written h hkeys (by simp [valueAt?]) (gives_bool _) _
  have hnoHeaders : field? gs "no_headers" bool? false = some t.noHeaders :=
    field?_of_written h hkeys (by simp [valueAt?]) (gives_bool _) _
  have hcookie : optional? gs "extract_cookie" text? = some t.extractCookie :=
    optional?_of_reordered h hkeys (by simp [valueAt?]) gives_text
  have hconfig : field? gs "extract_to_config" (dict? text?) {} = some t.extractToConfig :=
    field?_of_reordered h hkeys (c := t.extractToConfig.isEmpty) (by simp [valueAt?])
      Dict.eq_empty_of_isEmpty (gives_texts _)
  simp only [ofToml?, entries?, hmethod, hurl, hbody, hheaders, hnoAuth, hnoHeaders, hcookie,
    hconfig, Option.bind_eq_bind, Option.bind_some]
  rfl

end RequestTemplate

/-! ## authentication -/

namespace Auth

/-- An authentication that is left out has nothing in it. -/
theorem eq_none_of_isEmpty {a : Auth} (h : a.isEmpty = true) : a = ⟨none, none, none⟩ := by
  obtain ⟨username, password, cookie⟩ := a
  simp only [isEmpty, Bool.and_eq_true, Option.isNone_iff_eq_none] at h
  obtain ⟨⟨rfl, rfl⟩, rfl⟩ := h
  rfl

/-- An authentication is written under its three keys, in order and each at most once. -/
theorem keys_entries (a : Auth) :
    (a.entries.map Prod.fst).Sublist ["username", "password", "cookie"] := by
  have husername := keys_optional "username" (a.username.map .string)
  have hpassword := keys_optional "password" (a.password.map .string)
  have hcookie := keys_optional "cookie" (a.cookie.map .string)
  simp only [entries, List.map_append]
  exact (husername.append hpassword).append hcookie

theorem nodup_entries (a : Auth) : (a.entries.map Prod.fst).Nodup :=
  a.keys_entries.nodup (by decide)

/-- An authentication is read back. -/
theorem gives (a : Auth) : Gives ofToml? (.table a.entries) a := by
  intro w h
  obtain ⟨fs, gs, rfl, -, -⟩ := h.table_cases
  have hkeys := a.nodup_entries
  have husername : optional? gs "username" text? = some a.username :=
    optional?_of_reordered h hkeys (by simp [entries]) gives_text
  have hpassword : optional? gs "password" text? = some a.password :=
    optional?_of_reordered h hkeys (by simp [entries]) gives_text
  have hcookie : optional? gs "cookie" text? = some a.cookie :=
    optional?_of_reordered h hkeys (by simp [entries]) gives_text
  simp only [ofToml?, entries?, husername, hpassword, hcookie, Option.bind_eq_bind,
    Option.bind_some]
  rfl

end Auth

/-! ## steps -/

/-- An assertion is read back. -/
theorem RawAssertion.gives (a : RawAssertion) : Gives ofToml? a.toToml a := by
  intro w h
  obtain ⟨fs, gs, rfl, -, -⟩ := h.table_cases
  have hkeys : ["left", "op", "right"].Nodup := by decide
  have hleft : required? gs "left" scalarText? = some a.left :=
    required?_of_reordered h hkeys rfl (gives_scalarText _)
  have hoperator : required? gs "op" text? = some a.operator :=
    required?_of_reordered h hkeys rfl (gives_text _)
  have hright : required? gs "right" scalarText? = some a.right :=
    required?_of_reordered h hkeys rfl (gives_scalarText _)
  simp only [ofToml?, entries?, hleft, hoperator, hright, Option.bind_eq_bind, Option.bind_some]
  rfl

namespace RawAction

/-- What a step does itself is written under the keys of actions, in order and each at most
once. -/
theorem keys_entries (a : RawAction) : (a.entries.map Prod.fst).Sublist keys := by
  have hextract := keys_texts "extract" a.extract
  have hassert := keys_unless "assert" (a.assertions = [])
    (.array (a.assertions.map RawAssertion.toToml))
  have hlocals := keys_texts "variables" a.locals
  simp only [entries, List.map_append]
  exact (((List.Sublist.refl ["request"]).append hextract).append hassert).append hlocals

/-- What a step does itself is read back from the table of the step. -/
theorem ofEntries?_of_reordered (a : RawAction) {es gs : List (String × Toml)}
    (h : Reordered (.table es) (.table gs)) (hkeys : (es.map Prod.fst).Nodup)
    (hvalues : ∀ key ∈ keys, valueAt? key es = valueAt? key a.entries) :
    ofEntries? gs = some a := by
  have hrequest : field? gs "request" text? "" = some a.request :=
    field?_of_written h hkeys ((hvalues _ (by decide)).trans (by simp [entries, valueAt?]))
      (gives_text _) _
  have hextract : field? gs "extract" (dict? text?) {} = some a.extract :=
    field?_of_reordered h hkeys (c := a.extract.isEmpty)
      ((hvalues _ (by decide)).trans (by simp [entries, valueAt?])) Dict.eq_empty_of_isEmpty
      (gives_texts _)
  have hassert : field? gs "assert" (list? RawAssertion.ofToml?) [] = some a.assertions :=
    field?_of_reordered h hkeys (c := a.assertions = [])
      ((hvalues _ (by decide)).trans (by simp [entries, valueAt?])) id
      (gives_list fun b _ => b.gives)
  have hlocals : field? gs "variables" (dict? scalarText?) {} = some a.locals :=
    field?_of_reordered h hkeys (c := a.locals.isEmpty)
      ((hvalues _ (by decide)).trans (by simp [entries, valueAt?])) Dict.eq_empty_of_isEmpty
      (gives_scalarTexts _)
  simp only [ofEntries?, hrequest, hextract, hassert, hlocals, Option.bind_eq_bind,
    Option.bind_some]
  rfl

end RawAction

namespace RawStep

mutual

/-- The keys of the branches of a step, and of the steps below it, ascend. -/
def Ordered : RawStep → Prop
  | mk _ branches => Assoc.Ascending branches ∧ BranchesOrdered branches

/-- The keys of branches ascend in the steps below each status. -/
def BranchesOrdered : List (String × List RawStep) → Prop
  | [] => True
  | (_, steps) :: branches => ListOrdered steps ∧ BranchesOrdered branches

/-- The keys of branches ascend in each of some steps. -/
def ListOrdered : List RawStep → Prop
  | [] => True
  | step :: steps => Ordered step ∧ ListOrdered steps

end

/-- The branches of a step are what stands under `on_status`, and none if nothing does. -/
theorem onStatus?_eq (es : List (String × Toml)) :
    onStatus? es = match valueAt? "on_status" es with
      | none => some []
      | some v => branches? v := by
  induction es with
  | nil => rfl
  | cons e es ih =>
    obtain ⟨k, v⟩ := e
    rw [onStatus?, valueAt?]
    split_ifs
    · rfl
    · exact ih

/-- Branches that are read one by one are put in the order of their keys. -/
theorem branchList?_of_forall₂ {es : List (String × Toml)} {branches : List (String × List RawStep)}
    (h : List.Forall₂ (fun e b => e.1 = b.1 ∧ list? e.2 = some b.2) es branches) :
    branchList? es = some (branches.foldr (fun b acc => Assoc.insert b.1 b.2 acc) []) := by
  induction h with
  | nil => rfl
  | @cons e b es branches hfirst _ ih =>
    rw [branchList?, hfirst.2, ih, hfirst.1]
    rfl

/-- The entries of a step. -/
def entries : RawStep → List (String × Toml)
  | mk a branches =>
    a.entries ++ if branches.isEmpty then [] else [("on_status", .table (branchEntries branches))]

/-- A step is written as one table, its action and its branches side by side. -/
theorem toToml_eq (s : RawStep) : s.toToml = .table s.entries := by
  obtain ⟨a, branches⟩ := s
  cases branches <;> rfl

/-- The keys of a step are those of its action, and the one of its branches behind them. -/
theorem keys_entries (s : RawStep) :
    (s.entries.map Prod.fst).Sublist (RawAction.keys ++ ["on_status"]) := by
  obtain ⟨a, branches⟩ := s
  rw [entries, List.map_append]
  exact a.keys_entries.append
    (keys_unless "on_status" branches.isEmpty (.table (branchEntries branches)))

theorem nodup_entries (s : RawStep) : (s.entries.map Prod.fst).Nodup :=
  s.keys_entries.nodup (by decide)

/-- What stands under `on_status` is the table of the branches, and nothing without any. -/
theorem valueAt?_onStatus (a : RawAction) (branches : List (String × List RawStep)) :
    valueAt? "on_status" (mk a branches).entries =
      if branches.isEmpty then none else some (.table (branchEntries branches)) := by
  simp [entries, RawAction.entries, valueAt?]

/-- The other keys of a step have the values of its action. -/
theorem valueAt?_action (a : RawAction) (branches : List (String × List RawStep)) {key : String}
    (hkey : key ∈ RawAction.keys) :
    valueAt? key (mk a branches).entries = valueAt? key a.entries := by
  have hne : "on_status" ≠ key := by
    rintro rfl
    exact absurd hkey (by decide)
  simp [entries, hne]

mutual

/-- A step is read back, with all steps below it. -/
theorem gives (s : RawStep) (hs : s.Ordered) : Gives ofToml? s.toToml s := by
  obtain ⟨a, branches⟩ := s
  intro w h
  rw [toToml_eq] at h
  obtain ⟨fs, gs, rfl, -, -⟩ := h.table_cases
  have hkeys := nodup_entries (mk a branches)
  have haction : RawAction.ofEntries? gs = some a :=
    a.ofEntries?_of_reordered h hkeys fun _ hkey => valueAt?_action a branches hkey
  have hbranches : onStatus? gs = some branches := by
    have hrel := h.valueAt? hkeys "on_status"
    rw [valueAt?_onStatus] at hrel
    rw [onStatus?_eq]
    generalize valueAt? "on_status" gs = value at hrel ⊢
    split at hrel
    · next hempty =>
      cases hrel
      rw [List.isEmpty_iff.1 hempty]
    · cases hrel with
      | some hw =>
        obtain ⟨fs, ws, rfl, hentries, horder⟩ := hw.table_cases
        obtain ⟨written, hws, hwritten⟩ :=
          List.perm_comp_forall₂ horder (forall₂_branchEntries branches hs.2 hentries)
        exact (branchList?_of_forall₂ hws).trans
          (congrArg some (Assoc.foldr_insert_of_perm hs.1 hwritten))
  rw [ofToml?, haction, hbranches]
  rfl

/-- The branches of a step are read back, entry by entry, once the steps below them are. -/
theorem forall₂_branchEntries (branches : List (String × List RawStep))
    (hbranches : BranchesOrdered branches) {fs : List (String × Toml)}
    (h : List.Forall₂ EntryReordered (branchEntries branches) fs) :
    List.Forall₂ (fun e b => e.1 = b.1 ∧ list? e.2 = some b.2) fs branches := by
  match branches with
  | [] =>
    cases h
    exact .nil
  | (status, steps) :: branches =>
    rw [branchEntries] at h
    cases h with
    | @cons _ f _ fs hentry hrest =>
      obtain ⟨ws, hw, hws⟩ := hentry.2.array_cases
      have hsteps : list? f.2 = some steps := by
        rw [hw]
        exact elements?_of_reordered steps hbranches.1 hws
      exact .cons ⟨hentry.1, hsteps⟩ (forall₂_branchEntries branches hbranches.2 hrest)

/-- Steps are read back one by one, each with all that is below it. -/
theorem elements?_of_reordered (steps : List RawStep) (hsteps : ListOrdered steps) {ws : List Toml}
    (h : List.Forall₂ Reordered (listToToml steps) ws) : elements? ws = some steps := by
  match steps with
  | [] =>
    cases h
    rfl
  | step :: steps =>
    rw [listToToml] at h
    cases h with
    | cons hstep hrest =>
      rw [elements?, gives step hsteps.1 _ hstep, elements?_of_reordered steps hsteps.2 hrest]
      rfl

end

/-- The steps of a chain are read back. -/
theorem gives_listToToml {steps : List RawStep} (h : ListOrdered steps) :
    Gives list? (.array (listToToml steps)) steps := by
  intro w hw
  obtain ⟨ws, rfl, hws⟩ := hw.array_cases
  exact elements?_of_reordered steps h hws

end RawStep

/-! ## the whole -/

namespace Config

/-- The keys of branches ascend everywhere in the chains of a config. -/
def Ordered (c : Config) : Prop := ∀ e ∈ c.chains.toList, RawStep.ListOrdered e.2

/-- The keys of a config. -/
def keys : List String := ["base_url", "timeout_secs", "headers", "auth", "requests", "chains"]

/-- A config is written under its six keys, in order and each at most once. -/
theorem keys_document (c : Config) : (c.document.map Prod.fst).Sublist keys := by
  have hbase := keys_optional "base_url" (c.baseUrl.map .string)
  have htimeout := keys_optional "timeout_secs" (c.timeout.map fun n => .integer n.toNat)
  have hheaders := keys_texts "headers" c.headers
  have hauth := keys_unless "auth" c.auth.isEmpty (.table c.auth.entries)
  have hrequests := keys_unless "requests" c.requests.isEmpty
    (.table (c.requests.toList.map fun e => (e.1, e.2.toToml)))
  have hchains := keys_unless "chains" c.chains.isEmpty
    (.table (c.chains.toList.map fun e => (e.1, .array (RawStep.listToToml e.2))))
  simp only [document, List.map_append]
  exact ((((hbase.append htimeout).append hheaders).append hauth).append hrequests).append hchains

theorem nodup_document (c : Config) : (c.document.map Prod.fst).Nodup :=
  c.keys_document.nodup (by decide)

/-- A timeout is read back, whichever of its 64 bits it uses. -/
theorem gives_seconds (n : UInt64) : Gives seconds? (.integer n.toNat) n := by
  rintro w ⟨⟩
  have hlt := n.toNat_lt
  have hbounds : (0 : Int) ≤ n.toNat ∧ (n.toNat : Int) < 0x10000000000000000 := by
    constructor <;> omega
  rw [seconds?, if_pos hbounds, Int.toNat_natCast, UInt64.ofNat_toNat]

/-- The document of a config, in any order, is read as the config. -/
theorem ofDocument?_of_reordered {c : Config} (hc : c.Ordered) {es : List (String × Toml)}
    (h : Reordered (.table c.document) (.table es)) : ofDocument? es = some c := by
  have hkeys := c.nodup_document
  have hbase : optional? es "base_url" text? = some c.baseUrl :=
    optional?_of_reordered h hkeys (by simp [document]) gives_text
  have htimeout : optional? es "timeout_secs" seconds? = some c.timeout :=
    optional?_of_reordered h hkeys (by simp [document]) gives_seconds
  have hheaders : field? es "headers" (dict? text?) {} = some c.headers :=
    field?_of_reordered h hkeys (c := c.headers.isEmpty) (by simp [document])
      Dict.eq_empty_of_isEmpty (gives_texts _)
  have hauth : field? es "auth" Auth.ofToml? ⟨none, none, none⟩ = some c.auth :=
    field?_of_reordered h hkeys (c := c.auth.isEmpty) (by simp [document])
      Auth.eq_none_of_isEmpty c.auth.gives
  have hrequests : field? es "requests" (dict? RequestTemplate.ofToml?) {} = some c.requests :=
    field?_of_reordered h hkeys (c := c.requests.isEmpty) (by simp [document])
      Dict.eq_empty_of_isEmpty (gives_dict fun e _ => e.2.gives)
  have hsteps : Gives (dict? RawStep.list?)
      (.table (c.chains.toList.map fun e => (e.1, .array (RawStep.listToToml e.2)))) c.chains :=
    gives_dict (f := fun steps => .array (RawStep.listToToml steps)) fun e he =>
      RawStep.gives_listToToml (hc e he)
  have hchains : field? es "chains" (dict? RawStep.list?) {} = some c.chains :=
    field?_of_reordered h hkeys (c := c.chains.isEmpty) (by simp [document])
      Dict.eq_empty_of_isEmpty hsteps
  simp only [ofDocument?, hbase, htimeout, hheaders, hauth, hrequests, hchains,
    Option.bind_eq_bind, Option.bind_some]
  rfl

end Config

end HttpChain
