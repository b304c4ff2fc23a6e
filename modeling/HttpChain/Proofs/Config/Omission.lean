import HttpChain.Proofs.Config.Reading

/-!
# HttpChain.Proofs.Config.Omission

What documents leave out.  Some keys are always written; of the others, exactly
those are left out without which a table reads the same.
-/

namespace HttpChain

open Toml

namespace Toml

/-! ## tables without a key -/

/-- The entries of the other keys. -/
def without (key : String) (es : List (String × Toml)) : List (String × Toml) :=
  es.filter fun e => e.1 ≠ key

/-- A table has the keys that are always written, and of the others exactly
those without which it would not read the same. -/
def LeavesOut {α : Type} (read : Toml → Option α) (always : List String) (v : Toml) (a : α) :
    Prop :=
  ∃ es, v = .table es ∧
    ∀ key, valueAt? key es = none ↔ key ∉ always ∧ read (.table (without key es)) = some a

/-- Nothing is found at a key that is taken out. -/
theorem valueAt?_without (key : String) (es : List (String × Toml)) :
    valueAt? key (without key es) = none := by
  rw [valueAt?_eq_none_iff]
  simp [without]

/-- To take out a key that is not there changes nothing. -/
theorem without_of_valueAt?_eq_none {key : String} {es : List (String × Toml)}
    (h : valueAt? key es = none) : without key es = es := by
  refine List.filter_eq_self.2 fun e he => ?_
  rw [valueAt?_eq_none_iff] at h
  simpa using fun heq : e.1 = key => h (heq ▸ List.mem_map_of_mem he)

section

variable {α : Type} {read : Toml → Option α} {es : List (String × Toml)} {key : String}

/-- What an optional field without an entry is read as is nothing. -/
theorem eq_none_of_optional? {a : Option α} (h : optional? (without key es) key read = some a) :
    a = none := by
  rw [optional?, valueAt?_without] at h
  exact (Option.some.inj h).symm

/-- What a field without an entry is read as is its default. -/
theorem eq_default_of_field? {a default : α}
    (h : field? (without key es) key read default = some a) : a = default := by
  rw [field?, valueAt?_without] at h
  exact (Option.some.inj h).symm

/-- A required field without an entry is not read. -/
theorem required?_without : required? (without key es) key read = none := by
  rw [required?, valueAt?_without, Option.bind_none]

/-- It is enough to look at the keys that a table can have. -/
theorem leavesOut_of_keys {always keys : List String} {a : α} (hread : Gives read (.table es) a)
    (halways : ∀ key ∈ always, key ∈ es.map Prod.fst)
    (hkeys : (es.map Prod.fst).Sublist keys)
    (hothers : ∀ key ∈ keys, key ∉ always → read (.table (without key es)) = some a →
      valueAt? key es = none) : LeavesOut read always (.table es) a := by
  refine ⟨es, rfl, fun key => ⟨fun hnone => ⟨fun hmem => ?_, ?_⟩, ?_⟩⟩
  · exact valueAt?_eq_none_iff.1 hnone (halways key hmem)
  · rw [without_of_valueAt?_eq_none hnone]
    exact hread _ (.refl _)
  · rintro ⟨hnot, hsame⟩
    by_contra hsome
    have hmem : key ∈ es.map Prod.fst := by
      by_contra hmem
      exact hsome (valueAt?_eq_none_iff.2 hmem)
    exact hsome (hothers key (hkeys.subset hmem) hnot hsame)

end

end Toml

/-! ## requests -/

namespace RequestTemplate

/-- The fields of a request that is read are each read from their own entry. -/
theorem fields_of_ofToml? {es : List (String × Toml)} {t : RequestTemplate}
    (h : ofToml? (.table es) = some t) :
    required? es "url" text? = some t.url ∧
    field? es "body" text? "" = some t.body ∧
    field? es "headers" (list? text?) [] = some t.headers ∧
    optional? es "extract_cookie" text? = some t.extractCookie ∧
    field? es "extract_to_config" (dict? text?) {} = some t.extractToConfig := by
  simp only [ofToml?, entries?, Option.bind_eq_bind, Option.bind_some, Option.bind_eq_some_iff,
    Option.pure_def, Option.some.injEq] at h
  obtain ⟨method, -, url, hurl, body, hbody, headers, hheaders, noAuth, -, noHeaders, -, cookie,
    hcookie, config, hconfig, rfl⟩ := h
  exact ⟨hurl, hbody, hheaders, hcookie, hconfig⟩

/-- The method and the flags of a request are always written. -/
theorem leavesOut (t : RequestTemplate) :
    LeavesOut ofToml? ["method", "no_auth", "no_headers"] t.toToml t := by
  refine leavesOut_of_keys t.gives (by simp) t.keys_entries fun key hkey hnot hread => ?_
  obtain ⟨hurl, hbody, hheaders, hcookie, hconfig⟩ := fields_of_ofToml? hread
  simp only [keys, List.mem_cons, List.not_mem_nil, or_false, not_or] at hkey hnot
  rcases hkey with rfl | rfl | rfl | rfl | rfl | rfl | rfl | rfl
  · exact absurd rfl hnot.1
  · rw [required?_without] at hurl
    cases hurl
  · simp [valueAt?, eq_default_of_field? hbody]
  · simp [valueAt?, eq_default_of_field? hheaders]
  · exact absurd rfl hnot.2.1
  · exact absurd rfl hnot.2.2
  · simp [valueAt?, eq_none_of_optional? hcookie]
  · simp [valueAt?, eq_default_of_field? hconfig]

end RequestTemplate

/-! ## authentication -/

namespace Auth

/-- The fields of an authentication that is read are each read from their own entry. -/
theorem fields_of_ofToml? {es : List (String × Toml)} {a : Auth}
    (h : ofToml? (.table es) = some a) :
    optional? es "username" text? = some a.username ∧
    optional? es "password" text? = some a.password ∧
    optional? es "cookie" text? = some a.cookie := by
  simp only [ofToml?, entries?, Option.bind_eq_bind, Option.bind_some, Option.bind_eq_some_iff,
    Option.pure_def, Option.some.injEq] at h
  obtain ⟨username, husername, password, hpassword, cookie, hcookie, rfl⟩ := h
  exact ⟨husername, hpassword, hcookie⟩

/-- The table of an authentication leaves out exactly the settings that are not there. -/
theorem leavesOut (a : Auth) : LeavesOut ofToml? [] (.table a.entries) a := by
  refine leavesOut_of_keys a.gives (by simp) a.keys_entries fun key hkey _ hread => ?_
  obtain ⟨husername, hpassword, hcookie⟩ := fields_of_ofToml? hread
  simp only [List.mem_cons, List.not_mem_nil, or_false] at hkey
  rcases hkey with rfl | rfl | rfl
  · simp [entries, eq_none_of_optional? husername]
  · simp [entries, eq_none_of_optional? hpassword]
  · simp [entries, eq_none_of_optional? hcookie]

end Auth

/-! ## steps -/

namespace RawStep

/-- The fields of a step that is read are each read from their own entry. -/
theorem fields_of_ofToml? {es : List (String × Toml)} {a : RawAction}
    {branches : List (String × List RawStep)} (h : ofToml? (.table es) = some (mk a branches)) :
    field? es "extract" (dict? text?) {} = some a.extract ∧
    field? es "assert" (Toml.list? RawAssertion.ofToml?) [] = some a.assertions ∧
    field? es "variables" (dict? scalarText?) {} = some a.locals ∧
    onStatus? es = some branches := by
  simp only [ofToml?, RawAction.ofEntries?, Option.bind_eq_bind, Option.bind_eq_some_iff,
    Option.pure_def, Option.some.injEq] at h
  obtain ⟨_, ⟨request, -, extract, hextract, assertions, hassert, locals, hlocals, rfl⟩, _,
    hbranches, heq⟩ := h
  cases heq
  exact ⟨hextract, hassert, hlocals, hbranches⟩

/-- The request of a step is always written. -/
theorem leavesOut {s : RawStep} (hs : s.Ordered) : LeavesOut ofToml? ["request"] s.toToml s := by
  obtain ⟨a, branches⟩ := s
  have hgives := gives _ hs
  rw [toToml_eq] at hgives ⊢
  have halways : "request" ∈ (mk a branches).entries.map Prod.fst := by
    simp [entries, RawAction.entries]
  refine leavesOut_of_keys hgives (by simpa using halways) (keys_entries _)
    fun key hkey hnot hread => ?_
  obtain ⟨hextract, hassert, hlocals, hbranches⟩ := fields_of_ofToml? hread
  simp only [RawAction.keys, List.cons_append, List.nil_append, List.mem_cons, List.not_mem_nil,
    or_false] at hkey hnot
  rcases hkey with rfl | rfl | rfl | rfl | rfl
  · exact absurd rfl hnot
  · rw [valueAt?_action a branches (by decide)]
    simp [RawAction.entries, valueAt?, eq_default_of_field? hextract]
  · rw [valueAt?_action a branches (by decide)]
    simp [RawAction.entries, valueAt?, eq_default_of_field? hassert]
  · rw [valueAt?_action a branches (by decide)]
    simp [RawAction.entries, valueAt?, eq_default_of_field? hlocals]
  · rw [onStatus?_eq, valueAt?_without] at hbranches
    cases hbranches
    rw [valueAt?_onStatus, List.isEmpty_nil, if_pos rfl]

end RawStep

/-! ## the whole -/

namespace Config

/-- The config of a table. -/
def ofTable? : Toml → Option Config
  | .table es => ofDocument? es
  | _ => none

/-- The fields of a config that is read are each read from their own entry. -/
theorem fields_of_ofDocument? {es : List (String × Toml)} {c : Config}
    (h : ofDocument? es = some c) :
    optional? es "base_url" text? = some c.baseUrl ∧
    optional? es "timeout_secs" seconds? = some c.timeout ∧
    field? es "headers" (dict? text?) {} = some c.headers ∧
    field? es "auth" Auth.ofToml? ⟨none, none, none⟩ = some c.auth ∧
    field? es "requests" (dict? RequestTemplate.ofToml?) {} = some c.requests ∧
    field? es "chains" (dict? RawStep.list?) {} = some c.chains := by
  simp only [ofDocument?, Option.bind_eq_bind, Option.bind_eq_some_iff, Option.pure_def,
    Option.some.injEq] at h
  obtain ⟨base, hbase, timeout, htimeout, headers, hheaders, auth, hauth, requests, hrequests,
    chains, hchains, rfl⟩ := h
  exact ⟨hbase, htimeout, hheaders, hauth, hrequests, hchains⟩

/-- The document of a config is read back. -/
theorem gives {c : Config} (hc : c.Ordered) : Gives ofTable? (.table c.document) c := by
  intro w h
  obtain ⟨fs, gs, rfl, -, -⟩ := h.table_cases
  exact ofDocument?_of_reordered hc h

/-- Nothing of a config is always written. -/
theorem leavesOut {c : Config} (hc : c.Ordered) :
    LeavesOut ofTable? [] (.table c.document) c := by
  refine leavesOut_of_keys (gives hc) (by simp) c.keys_document fun key hkey _ hread => ?_
  obtain ⟨hbase, htimeout, hheaders, hauth, hrequests, hchains⟩ := fields_of_ofDocument? hread
  simp only [keys, List.mem_cons, List.not_mem_nil, or_false] at hkey
  rcases hkey with rfl | rfl | rfl | rfl | rfl | rfl
  · simp [document, eq_none_of_optional? hbase]
  · simp [document, eq_none_of_optional? htimeout]
  · simp [document, eq_default_of_field? hheaders]
  · simp [document, eq_default_of_field? hauth, Auth.isEmpty]
  · simp [document, eq_default_of_field? hrequests]
  · simp [document, eq_default_of_field? hchains]

end Config

end HttpChain
