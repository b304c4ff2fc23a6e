import HttpChain.Proofs.Request.Destination
import HttpChain.Proofs.Request.Permission

/-!
# HttpChain.Proofs.Request.EnvironmentReads

What resolving asks the environment for.  These are the names that the values of a
config refer to, as far as the values are used (`Config.Reads`), and no others:
requests are the same under two environments that agree on them, and for every
further name some request tells (`Config.independent_iff`).  What is written
back counts like any other value, so a response that holds a reference makes later
requests ask for what the config has not referred to before
(`writeBackAll_independent_iff`).
-/

namespace HttpChain

open Environment (Refers)

/-! ## two environments that differ in one name -/

namespace Environment

/-- Nothing is set. -/
def unset : Environment := fun _ => none

/-- One name is set. -/
def only (name value : String) : Environment := fun key => if key = name then some value else none

/-- A text becomes longer, by more than the slash that joining a URL may hide, where a
name that it refers to is set to something longer. -/
theorem length_add_le_expand {text name : String} (h : Refers text name) :
    text.length + 2 ≤ ((only name (text ++ "//")).expand text).length := by
  have hvalue : only name (text ++ "//") name = some (text ++ "//") := if_pos rfl
  have hlength := length_le_length_expand h hvalue
  rwa [String.length_append] at hlength

theorem expand_unset (text : String) : unset.expand text = text := expand_of_unset fun _ _ => rfl

theorem expand_only_ne {text name : String} (h : Refers text name) :
    unset.expand text ≠ (only name (text ++ "//")).expand text := by
  intro heq
  have hlength := length_add_le_expand h
  rw [← heq, expand_unset] at hlength
  omega

end Environment

open Environment

namespace Config

/-! ## the names that are read -/

/-- A value of a config refers to a name of the environment. -/
def RefersTo (c : Config) (name : String) : Prop :=
  ∃ s text, c.get? s = some text ∧ Refers text name

/-- A value that is used refers to a name of the environment: of common headers with
the same name the last one is, and a password only if there is a user name. -/
inductive Reads (c : Config) (name : String) : Prop where
  | base {text} : c.baseUrl = some text → Refers text name → Reads c name
  | header {h} : h ∈ HeaderList.lasting c.headers.toList → Refers h.2 name → Reads c name
  | username {text} : c.auth.username = some text → Refers text name → Reads c name
  | password {user text} : c.auth.username = some user → user ≠ "" →
      c.auth.password = some text → Refers text name → Reads c name
  | cookie {text} : c.auth.cookie = some text → Refers text name → Reads c name

/-- Only what stands in a config is read. -/
theorem Reads.refersTo {c : Config} {name : String} (h : c.Reads name) : c.RefersTo name := by
  cases h with
  | base htext hrefers => exact ⟨.baseUrl, _, htext, hrefers⟩
  | @header h hmem hrefers =>
    have hentry : (h.1, h.2) ∈ c.headers.toList := (HeaderList.lasting_sublist _).subset hmem
    exact ⟨.header h.1, h.2, Dict.get?_eq_some_iff.2 hentry, hrefers⟩
  | username htext hrefers => exact ⟨.username, _, htext, hrefers⟩
  | password _ _ htext hrefers => exact ⟨.password, _, htext, hrefers⟩
  | cookie htext hrefers => exact ⟨.cookie, _, htext, hrefers⟩

theorem credentials_of_username {c : Config} {user : String} (h : c.auth.username = some user)
    (hne : user ≠ "") (env : Environment) :
    c.credentials env = some (env.expand user, env.expand (c.auth.password.getD "")) := by
  rw [credentials, h, Option.filter_some_pos (by simpa using hne)]

theorem cookie_of_cookie {c : Config} {text : String} (h : c.auth.cookie = some text)
    (hne : text ≠ "") (env : Environment) : c.cookie env = some (env.expand text) := by
  rw [cookie, h, Option.filter_some_pos (by simpa using hne), Option.map_some]

/-! ## environments that agree on them -/

/-- What a template lets resolving expand is read. -/
theorem Expands.reads {c : Config} {t : RequestTemplate} {text name : String}
    (h : c.Expands t text) (hrefers : Refers text name) : c.Reads name := by
  cases h with
  | base htext => exact .base htext hrefers
  | header _ hmem => exact .header hmem hrefers
  | username _ htext => exact .username htext hrefers
  | password _ huser hne htext => exact .password huser hne htext hrefers
  | cookie _ htext => exact .cookie htext hrefers

theorem alike_of_reads {c : Config} {env env' : Environment}
    (h : ∀ name, c.Reads name → env name = env' name) (t : RequestTemplate) :
    Alike t c c env env' :=
  ⟨fun _ _ => rfl, fun _ name hexpands hrefers => h name (hexpands.reads hrefers)⟩

/-! ## requests that tell them -/

section Tell

variable {c : Config} {env env' : Environment}

theorem absoluteUrl_eq_of_resolve {t : RequestTemplate} {ctx : Context} {draws draws' : Draws}
    (hmethod : t.method = "GET")
    (h : (c.resolve env t ctx draws).1 = (c.resolve env' t ctx draws').1) :
    c.absoluteUrl env (t.urlText ctx draws) = c.absoluteUrl env' (t.urlText ctx draws') := by
  have hget : Method.ofText? "GET" = some .get := rfl
  rw [resolve_fst, resolve_fst, hmethod, hget] at h
  dsimp only at h
  split at h <;> split at h
  · simp only [Except.error.injEq, Error.config.injEq, ConfigFault.url.injEq] at h
    exact h.1
  · cases h
  · cases h
  · simp only [Except.ok.injEq, Prod.mk.injEq] at h
    rw [← url_requestOf c env t ctx draws .get, h.1, url_requestOf]

theorem requestOf_eq_of_resolve {t : RequestTemplate} {ctx : Context} {draws draws' : Draws}
    (hmethod : t.method = "GET") (hurl : t.url = "http://[::1]/")
    (h : (c.resolve env t ctx draws).1 = (c.resolve env' t ctx draws').1) :
    c.requestOf env t ctx draws .get = c.requestOf env' t ctx draws' .get := by
  rw [resolve_of_loopback c env hmethod hurl, resolve_of_loopback c env' hmethod hurl,
    Except.ok.injEq, Prod.mk.injEq] at h
  exact h.1

end Tell

/-- Requests do not depend on what environments do not agree on. -/
def Independent (c : Config) (agreed : String → Prop) : Prop :=
  ∀ env env', (∀ name, agreed name → env name = env' name) →
    ∀ t, t.Static → ∀ ctx draws draws',
      (c.resolve env t ctx draws).1 = (c.resolve env' t ctx draws').1

namespace Independent

variable {c : Config} {agreed : String → Prop} {name : String}

/-- The headers and the credentials of a config show in requests to the local host. -/
def probe (noAuth noHeaders : Bool) : RequestTemplate :=
  { RequestTemplate.bare "GET" "http://[::1]/" with noAuth, noHeaders }

theorem credentials_requestOf (c : Config) (env : Environment) (noHeaders : Bool) (draws : Draws) :
    (c.requestOf env (probe false noHeaders) {} draws .get).credentials = c.credentials env := by
  simp only [requestOf]
  rfl

theorem sharedHeaders_probe (c : Config) (env : Environment) :
    c.sharedHeaders env (probe false true) =
      ((c.cookie env).map fun text => ("Cookie", text)).toList := by
  have hcookie : (if (probe false true).noAuth then none else c.cookie env) = c.cookie env := rfl
  rw [sharedHeaders, hcookie]
  cases c.cookie env <;> rfl

theorem static_probe (noAuth noHeaders : Bool) : (probe noAuth noHeaders).Static :=
  let h : (RequestTemplate.bare "GET" "http://[::1]/").Static :=
    RequestTemplate.static_bare (by decide)
  ⟨h.url, h.headers, h.body⟩

/-- Setting one name more makes no difference. -/
theorem resolve_eq (h : c.Independent agreed) (hname : ¬ agreed name) (value : String)
    {t : RequestTemplate} (ht : t.Static) :
    (c.resolve unset t {} ⟨id, id, 0⟩).1 = (c.resolve (only name value) t {} ⟨id, id, 0⟩).1 := by
  refine h _ _ (fun key hkey => ?_) t ht _ _ _
  have hne : key ≠ name := fun heq => hname (heq ▸ hkey)
  rw [only, if_neg hne, unset]

theorem probe_eq (h : c.Independent agreed) (hname : ¬ agreed name) (value : String)
    (noAuth noHeaders : Bool) :
    c.requestOf unset (probe noAuth noHeaders) {} ⟨id, id, 0⟩ .get =
      c.requestOf (only name value) (probe noAuth noHeaders) {} ⟨id, id, 0⟩ .get :=
  requestOf_eq_of_resolve rfl rfl (h.resolve_eq hname value (static_probe noAuth noHeaders))

theorem commonHeaders_eq (h : c.Independent agreed) (hname : ¬ agreed name) (value : String) :
    c.commonHeaders unset = c.commonHeaders (only name value) := by
  have hheaders := congrArg Request.headers (h.probe_eq hname value true false)
  rwa [headers_requestOf, headers_requestOf] at hheaders

theorem credentials_eq (h : c.Independent agreed) (hname : ¬ agreed name) (value : String) :
    c.credentials unset = c.credentials (only name value) := by
  have hcredentials := congrArg Request.credentials (h.probe_eq hname value false true)
  rwa [credentials_requestOf, credentials_requestOf] at hcredentials

theorem cookie_eq (h : c.Independent agreed) (hname : ¬ agreed name) (value : String) :
    c.cookie unset = c.cookie (only name value) := by
  have hheaders := congrArg Request.headers (h.probe_eq hname value false true)
  rw [headers_requestOf, headers_requestOf, sharedHeaders_probe, sharedHeaders_probe] at hheaders
  have hcookie : ∀ cookie : Option String,
      ((cookie.map fun text => ("Cookie", text)).toList : HeaderList).head?.map Prod.snd = cookie := by
    rintro (_ | text) <;> rfl
  rw [← hcookie (c.cookie unset), ← hcookie (c.cookie (only name value))]
  exact congrArg (fun headers : HeaderList => headers.head?.map Prod.snd) hheaders

/-- A base shows in the URL of a request, up to a slash at its end. -/
theorem base_eq (h : c.Independent agreed) (hname : ¬ agreed name) (value : String)
    (hunset : c.base unset ≠ "") (honly : c.base (only name value) ≠ "") :
    withoutLastSlash (c.base unset) = withoutLastSlash (c.base (only name value)) := by
  have hstatic : (RequestTemplate.bare "GET" "/").Static :=
    RequestTemplate.static_bare (by decide)
  have hurl := absoluteUrl_eq_of_resolve rfl (h.resolve_eq hname value hstatic)
  have hslash : ∀ draws, (RequestTemplate.bare "GET" "/").urlText {} draws = "/" ++ "" :=
    fun _ => rfl
  rw [hslash, absoluteUrl, absoluteUrl, joinUrl_slash hunset, joinUrl_slash honly] at hurl
  simpa using hurl

/-- A name that is read and not agreed on would tell in a request. -/
theorem of_reads (h : c.Independent agreed) (hread : c.Reads name) : agreed name := by
  by_contra hname
  cases hread with
  | @base text htext hrefers =>
    have hbase : ∀ env : Environment, c.base env = env.expand text := fun env => by
      rw [base, htext]
      rfl
    have hlength := length_add_le_expand hrefers
    have hunset_ne : c.base unset ≠ "" := by
      rw [hbase, expand_unset]
      exact hrefers.ne_empty
    have honly_ne : c.base (only name (text ++ "//")) ≠ "" := by
      intro hempty
      rw [← hbase, hempty, String.length_empty] at hlength
      omega
    -- a base that is longer by two characters is another one even without a slash at its end
    have hsame := congrArg String.length (h.base_eq hname (text ++ "//") hunset_ne honly_ne)
    rw [hbase, hbase, expand_unset] at hsame
    have hunset := length_withoutLastSlash_le text
    have honly := length_le_withoutLastSlash ((only name (text ++ "//")).expand text)
    omega
  | @header e hmem hrefers =>
    have hheaders := h.commonHeaders_eq hname (e.2 ++ "//")
    rw [commonHeaders_eq_map, commonHeaders_eq_map, List.map_inj_left] at hheaders
    exact expand_only_ne hrefers (congrArg Prod.snd (hheaders e hmem))
  | @username text htext hrefers =>
    have hcredentials := h.credentials_eq hname (text ++ "//")
    rw [credentials_of_username htext hrefers.ne_empty,
      credentials_of_username htext hrefers.ne_empty, Option.some.injEq,
      Prod.mk.injEq] at hcredentials
    exact expand_only_ne hrefers hcredentials.1
  | @password user text huser hne htext hrefers =>
    have hcredentials := h.credentials_eq hname (text ++ "//")
    rw [credentials_of_username huser hne, credentials_of_username huser hne, htext,
      Option.some.injEq, Prod.mk.injEq] at hcredentials
    exact expand_only_ne hrefers hcredentials.2
  | @cookie text htext hrefers =>
    have hcookie := h.cookie_eq hname (text ++ "//")
    rw [cookie_of_cookie htext hrefers.ne_empty, cookie_of_cookie htext hrefers.ne_empty,
      Option.some.injEq] at hcookie
    exact expand_only_ne hrefers hcookie

end Independent

/-- Requests depend on the environment through the names that are read, and through
each of them. -/
theorem independent_iff (c : Config) (agreed : String → Prop) :
    c.Independent agreed ↔ ∀ name, c.Reads name → agreed name := by
  refine ⟨fun h name => h.of_reads, fun h env env' hagree t ht ctx draws draws' => ?_⟩
  have halike : Alike t c c env env' := alike_of_reads (fun name hname => hagree name (h name hname)) t
  exact resolve_congr (ht.urlText_eq ctx draws draws') (ht.lineTexts_eq ctx draws draws')
    (ht.bodyText_eq ctx draws draws') halike.base_eq halike.sharedHeaders_eq halike.credentials_eq

end Config

/-- After responses have been written back, requests depend on the environment through
the names that the config they were written to refers to, and through no others, if
and only if it still is these that are read.  What is read beyond them stands in a
text of a response. -/
theorem writeBackAll_independent_iff (c : Config) (calls : List (RequestTemplate × Response)) :
    ((c.writeBackAll calls).Independent c.RefersTo ↔
      ∀ name, (c.writeBackAll calls).Reads name → c.RefersTo name) ∧
    ∀ name, (c.writeBackAll calls).Reads name → c.RefersTo name ∨
      ∃ call ∈ calls, ∃ w ∈ call.1.writes call.2, Refers w.2 name := by
  refine ⟨Config.independent_iff _ _, fun name hread => ?_⟩
  obtain ⟨s, text, htext, hrefers⟩ := hread.refersTo
  rw [Config.writeBackAll_eq] at htext
  rcases Config.mem_of_get?_setAll htext with hold | hwritten
  · exact .inl ⟨s, text, hold, hrefers⟩
  · obtain ⟨call, hcall, hwrite⟩ := List.mem_flatMap.1 hwritten
    exact .inr ⟨call, hcall, _, hwrite, hrefers⟩

/-- A response whose token is a reference. -/
def referringResponse : Response :=
  ⟨default, [], "\x7b\"token\":\"$\x7bSECRET\x7d\"\x7d", 0⟩

/-- Its token makes requests depend on a name that the config does not refer to. -/
theorem not_writeBackAll_independent : ¬ ∀ (c : Config)
    (calls : List (RequestTemplate × Response)),
    (c.writeBackAll calls).Independent c.RefersTo := by
  intro h
  have hwrites : login.writes referringResponse = [(.header "X-Token", "$\x7bSECRET\x7d")] := by
    decide +kernel
  have hconfig : Config.empty.writeBackAll [(login, referringResponse)] =
      Config.empty.setAll [(.header "X-Token", "$\x7bSECRET\x7d")] := by
    rw [Config.writeBackAll_eq, List.flatMap_singleton, hwrites]
  have hall : "SECRET".toList.all isNameChar = true := by decide
  have hrefers : Refers "$\x7bSECRET\x7d" "SECRET" :=
    ⟨0, ⟨⟨'S', by decide, by decide⟩, List.all_eq_true.1 hall⟩, by decide⟩
  have hread : (Config.empty.setAll [(.header "X-Token", "$\x7bSECRET\x7d")]).Reads "SECRET" :=
    .header (h := ("X-Token", "$\x7bSECRET\x7d")) List.mem_cons_self hrefers
  obtain ⟨s, text, htext, -⟩ :=
    (Config.independent_iff _ _).1 (hconfig ▸ h Config.empty [(login, referringResponse)]) _ hread
  cases s <;> cases htext

end HttpChain
