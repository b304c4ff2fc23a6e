import HttpChain.Proofs.Http.HeaderLine
import HttpChain.Proofs.Request.CommonHeaders

/-!
# HttpChain.Proofs.Request.Composition

What a request is made of.  Each header of a request is provided by the last line of
its template that sets it, by the cookie of the config, or by the common headers, in
this order (`Config.Provides`), and no header comes from anywhere else
(`header?_eq_some_iff`).  Resolving fails for a method or a URL that is none and for
no other reason, and what it comes to otherwise is settled field by field
(`resolve_exact`).
-/

namespace HttpChain

open HeaderList (LastSets)
open Text (sameName)

namespace Config

/-! ## headers -/

/-- A config sends a cookie with a template: there is one, and the template does not go
without authentication. -/
def SendsCookie (c : Config) (t : RequestTemplate) (text : String) : Prop :=
  t.noAuth = false ∧ c.auth.cookie = some text ∧ text ≠ ""

theorem cookie_eq_some_iff {c : Config} {env : Environment} {t : RequestTemplate} {value : String} :
    t.noAuth = false ∧ c.cookie env = some value ↔
      ∃ text, c.SendsCookie t text ∧ value = env.expand text := by
  simp only [cookie, Option.map_eq_some_iff, Option.filter_eq_some_iff, SendsCookie,
    decide_eq_true_eq]
  constructor
  · rintro ⟨hauth, text, ⟨htext, hne⟩, rfl⟩
    exact ⟨text, ⟨hauth, htext, hne⟩, rfl⟩
  · rintro ⟨text, ⟨hauth, htext, hne⟩, rfl⟩
    exact ⟨hauth, text, ⟨htext, hne⟩, rfl⟩

/-- What provides a header under a name with a value: a line of the template, the
cookie of the config where no line does, or a common header where neither does. -/
inductive Provides (c : Config) (env : Environment) (t : RequestTemplate) (lines : List String)
    (name : String) : String → Prop where
  | line {value} : LastSets lines name value → Provides c env t lines name value
  | cookie {text} : (∀ value, ¬ LastSets lines name value) → sameName name "Cookie" = true →
      c.SendsCookie t text → Provides c env t lines name (env.expand text)
  | common {text} : (∀ value, ¬ LastSets lines name value) →
      (sameName name "Cookie" = true → ∀ cookie, ¬ c.SendsCookie t cookie) →
      t.noHeaders = false → c.Effective name text → Provides c env t lines name (env.expand text)

/-- The headers that a template starts from, with the cookie ahead of the common ones. -/
theorem get?_sharedHeaders_eq_some_iff {c : Config} {env : Environment} {t : RequestTemplate}
    {name value : String} : (c.sharedHeaders env t).get? name = some value ↔
      (sameName name "Cookie" = true ∧ ∃ text, c.SendsCookie t text ∧ value = env.expand text) ∨
      ((sameName name "Cookie" = true → ∀ cookie, ¬ c.SendsCookie t cookie) ∧
        t.noHeaders = false ∧ ∃ text, c.Effective name text ∧ value = env.expand text) := by
  have hsent : ∀ value, (if sameName name "Cookie" = true ∧ t.noAuth = false then c.cookie env
      else none) = some value ↔
        sameName name "Cookie" = true ∧ ∃ text, c.SendsCookie t text ∧ value = env.expand text := by
    intro value
    rw [Option.ite_none_right_eq_some, and_assoc, cookie_eq_some_iff]
  have hunsent : (if sameName name "Cookie" = true ∧ t.noAuth = false then c.cookie env
      else none) = none ↔ (sameName name "Cookie" = true → ∀ cookie, ¬ c.SendsCookie t cookie) := by
    rw [Option.eq_none_iff_forall_ne_some]
    simp only [ne_eq, hsent, not_and, not_exists]
    exact ⟨fun h hname cookie hcookie => h _ hname cookie hcookie rfl,
      fun h _ hname cookie hcookie _ => h hname cookie hcookie⟩
  have hcommon : (if t.noHeaders = true then none
      else (lastWrite? (sameName · name) c.headers.toList).map env.expand) = some value ↔
        t.noHeaders = false ∧ ∃ text, c.Effective name text ∧ value = env.expand text := by
    rw [Option.ite_none_left_eq_some, Option.map_eq_some_iff, Bool.not_eq_true]
    simp only [lastWrite?_headers_iff, eq_comm (b := value)]
  rw [get?_sharedHeaders, Option.or_eq_some_iff, hsent, hunsent, hcommon]

/-- A request has the headers that are provided for it, with these values. -/
theorem header?_eq_some_iff {c : Config} {env : Environment} {t : RequestTemplate}
    {ctx : Context} {draws : Draws} {method : Method} {name value : String} :
    (c.requestOf env t ctx draws method).header? name = some value ↔
      c.Provides env t (t.lineTexts ctx draws) name value := by
  rw [header?_requestOf, Option.or_eq_some_iff, HeaderList.lastWrite?_lines_eq_none_iff,
    HeaderList.lastWrite?_lines_iff, get?_sharedHeaders_eq_some_iff]
  constructor
  · rintro (hline | ⟨hlines, ⟨hname, text, hcookie, rfl⟩ | ⟨hcookie, hused, text, htext, rfl⟩⟩)
    · exact .line hline
    · exact .cookie hlines hname hcookie
    · exact .common hlines hcookie hused htext
  · rintro (hline | ⟨hlines, hname, hcookie⟩ | ⟨hlines, hcookie, hused, htext⟩)
    · exact .inl hline
    · exact .inr ⟨hlines, .inl ⟨hname, _, hcookie, rfl⟩⟩
    · exact .inr ⟨hlines, .inr ⟨hcookie, hused, _, htext, rfl⟩⟩

theorem distinct_sharedHeaders (c : Config) (env : Environment) (t : RequestTemplate) :
    (c.sharedHeaders env t).Distinct := by
  have hcommon : HeaderList.Distinct (if t.noHeaders then [] else c.commonHeaders env) := by
    split
    · exact .nil
    · rw [commonHeaders_eq]
      exact HeaderList.Distinct.writeAll .nil _
  rw [sharedHeaders]
  split
  · exact hcommon.set _ _
  · exact hcommon

theorem distinct_requestOf (c : Config) (env : Environment) (t : RequestTemplate) (ctx : Context)
    (draws : Draws) (method : Method) :
    (c.requestOf env t ctx draws method).headers.Distinct := by
  rw [headers_requestOf, HeaderList.setLines_eq]
  exact (c.distinct_sharedHeaders env t).writeAll _

/-! ## the other fields -/

/-- A config sends a user name and a password with a template: there is a user name, and
the template does not go without authentication.  Without a password an empty one is
sent. -/
def SendsCredentials (c : Config) (env : Environment) (t : RequestTemplate)
    (user password : String) : Prop :=
  t.noAuth = false ∧ ∃ name, c.auth.username = some name ∧ name ≠ "" ∧
    user = env.expand name ∧ password = env.expand (c.auth.password.getD "")

theorem credentials_eq_some_iff {c : Config} {env : Environment} {t : RequestTemplate}
    {user password : String} :
    (if t.noAuth then none else c.credentials env) = some (user, password) ↔
      c.SendsCredentials env t user password := by
  have hmap : c.credentials env = (c.auth.username.filter (· ≠ "")).map fun name =>
      (env.expand name, env.expand (c.auth.password.getD "")) := by
    rw [credentials]
    split <;> next hname => rw [hname]; rfl
  rw [Option.ite_none_left_eq_some, SendsCredentials, Bool.not_eq_true, hmap]
  simp only [Option.map_eq_some_iff, Option.filter_eq_some_iff, Prod.mk.injEq, decide_eq_true_eq,
    eq_comm (b := user), eq_comm (b := password), and_assoc]

end Config

theorem Body.ofText?_eq_none_iff {text : String} : Body.ofText? text = none ↔ text = "" := by
  rw [Body.ofText?, ite_eq_left_iff]
  simp

/-! ## the whole request -/

/-- What a template comes to in a context: a method, a URL, the headers that are provided
and no others, what is sent to log in, and a body unless its text is empty. -/
structure Composed (c : Config) (env : Environment) (t : RequestTemplate) (ctx : Context)
    (draws : Draws) (r : Request) : Prop where
  method : Method.ofText? t.method = some r.method
  url : r.url = c.absoluteUrl env (t.urlText ctx draws)
  headers : ∀ name value, r.header? name = some value ↔
    c.Provides env t (t.lineTexts ctx draws) name value
  entries : ∀ h ∈ r.headers, c.Provides env t (t.lineTexts ctx draws) h.1 h.2
  names : r.headers.Pairwise fun a b => sameName a.1 b.1 = false
  credentials : ∀ user password, r.credentials = some (user, password) ↔
    c.SendsCredentials env t user password
  body : r.body = none ↔ t.bodyText ctx draws = ""

theorem composed_requestOf (c : Config) (env : Environment) {t : RequestTemplate} (ctx : Context)
    (draws : Draws) {method : Method} (hmethod : Method.ofText? t.method = some method) :
    Composed c env t ctx draws (c.requestOf env t ctx draws method) where
  method := hmethod
  url := c.url_requestOf env t ctx draws method
  headers _ _ := Config.header?_eq_some_iff
  entries h hmem := Config.header?_eq_some_iff.1
    ((c.distinct_requestOf env t ctx draws method).get?_of_mem hmem)
  names := c.distinct_requestOf env t ctx draws method
  credentials _ _ := by
    rw [Config.credentials_requestOf]
    exact Config.credentials_eq_some_iff
  body := by
    rw [Config.body_requestOf]
    exact Body.ofText?_eq_none_iff

/-- A template fails to be resolved if its method or else its URL is none, always with an
error of the config, and for no other reason.  Otherwise it comes to a request that is
settled field by field. -/
theorem resolve_exact (c : Config) (env : Environment) (t : RequestTemplate) (ctx : Context)
    (draws : Draws) :
    (∀ e, (c.resolve env t ctx draws).1 = .error e ↔
      (Method.ofText? t.method = none ∧ e = .config (.method t.method)) ∨
      ∃ method f, Method.ofText? t.method = some method ∧
        Url.parse (c.absoluteUrl env (t.urlText ctx draws)) = .error f ∧
        e = .config (.url (c.absoluteUrl env (t.urlText ctx draws)) f)) ∧
    ∀ r log, (c.resolve env t ctx draws).1 = .ok (r, log) →
      Composed c env t ctx draws r ∧ ∃ u, Url.parse r.url = .ok u := by
  refine ⟨fun e => ?_, fun r log h => ?_⟩
  · rw [Config.resolve_fst]
    cases hmethod : Method.ofText? t.method with
    | none => simp [eq_comm]
    | some method =>
      cases hurl : Url.parse (c.absoluteUrl env (t.urlText ctx draws)) with
      | error f => simp [eq_comm]
      | ok u => simp
  · obtain ⟨method, u, hmethod, hurl, rfl⟩ := Config.of_resolve h
    exact ⟨composed_requestOf c env ctx draws hmethod, u, hurl⟩

/-- A config with a header under two spellings, a user name and a cookie. -/
def layered : Config :=
  { Config.empty with
    headers := (Dict.empty.insert "x-key" "small").insert "X-KEY" "capital"
    auth := ⟨some "user", none, some "id=$\x7bID\x7d"⟩ }

/-- A template that has a header on two lines, and a line that sets none. -/
def twice : RequestTemplate :=
  { RequestTemplate.bare "GET" "http://[::1]/" with
    headers := ["X-Note: first", "x-note : 1:\x7b\x7bn\x7d\x7d", ": none"] }

/-- A variable with a digit. -/
def digit : Context := Dict.empty.insert "n" (.string "2")

/-- Each header comes from where it is said to come from. -/
theorem resolve_exact_layered : ∃ r log,
    (layered.resolve (fun _ => some "7") twice digit ⟨id, id, 0⟩).1 = .ok (r, log) ∧
    r.header? "X-Note" = some "1:2" ∧ r.header? "cookie" = some "id=7" ∧
    r.header? "X-Key" = some "small" ∧ r.credentials = some ("user", "") ∧ r.body = none := by
  have hresolve := layered.resolve_of_loopback (fun _ => some "7") (t := twice) rfl rfl digit
    ⟨id, id, 0⟩
  obtain ⟨hcomposed, -⟩ := (resolve_exact _ _ _ _ _).2 _ _ hresolve
  have hlines : twice.lineTexts digit ⟨id, id, 0⟩ = ["X-Note: first", "x-note : 1:2", ": none"] := by
    decide +kernel
  have hcookie : "id=7" = Environment.expand (fun _ => some "7") "id=$\x7bID\x7d" := by
    decide +kernel
  have hsmall : "small" = Environment.expand (fun _ => some "7") "small" := by decide +kernel
  refine ⟨_, _, hresolve, ?_, ?_, ?_, ?_, ?_⟩
  · rw [hcomposed.headers, hlines]
    exact .line (HeaderList.lastWrite?_lines_iff.1 (by decide +kernel))
  · rw [hcomposed.headers, hlines, hcookie]
    exact .cookie (HeaderList.lastWrite?_lines_eq_none_iff.1 (by decide +kernel)) (by decide)
      ⟨rfl, rfl, by decide⟩
  · rw [hcomposed.headers, hlines, hsmall]
    exact .common (HeaderList.lastWrite?_lines_eq_none_iff.1 (by decide +kernel))
      (fun hname => absurd hname (by decide)) rfl
      (Config.lastWrite?_headers_iff.1 (by decide +kernel))
  · rw [hcomposed.credentials]
    exact ⟨rfl, "user", rfl, by decide, by decide +kernel, by decide +kernel⟩
  · rw [hcomposed.body]
    decide +kernel

end HttpChain
