import HttpChain.Proofs.Request.CommonHeaders

/-!
# HttpChain.Proofs.Request.Permission

What a template lets a request be made of.  A template may go without the common
headers of a config and without its authentication; the settings that are left
(`RequestTemplate.Uses`) are all that resolving looks at, and the names that their
texts refer to are all that it asks the environment for (`Alike.resolve_eq`).  A
reference that stands anywhere else, in the template itself or in the value of a
variable, is text like any other.
-/

namespace HttpChain

open Config (Setting)
open Environment (Refers expand_congr)

/-! ## what a template uses -/

/-- The settings of a config that a template uses: the base, the common headers
unless it goes without them, and the authentication unless it goes without it. -/
def RequestTemplate.Uses (t : RequestTemplate) : Setting → Prop
  | .baseUrl => True
  | .header _ => t.noHeaders = false
  | .username | .password | .cookie => t.noAuth = false

namespace Config

/-- The texts that resolving a template expands: of common headers with the same name
the last one, and a password only if there is a user name. -/
inductive Expands (c : Config) (t : RequestTemplate) : String → Prop where
  | base {text} : c.baseUrl = some text → Expands c t text
  | header {h} : t.noHeaders = false → h ∈ HeaderList.lasting c.headers.toList → Expands c t h.2
  | username {text} : t.noAuth = false → c.auth.username = some text → Expands c t text
  | password {user text} : t.noAuth = false → c.auth.username = some user → user ≠ "" →
      c.auth.password = some text → Expands c t text
  | cookie {text} : t.noAuth = false → c.auth.cookie = some text → Expands c t text

/-- Only texts of settings that a template uses are expanded. -/
theorem Expands.exists_uses {c : Config} {t : RequestTemplate} {text : String}
    (h : c.Expands t text) : ∃ s, t.Uses s ∧ c.get? s = some text := by
  cases h with
  | base htext => exact ⟨.baseUrl, trivial, htext⟩
  | @header h hused hmem =>
    have hentry : (h.1, h.2) ∈ c.headers.toList := (HeaderList.lasting_sublist _).subset hmem
    exact ⟨.header h.1, hused, Dict.get?_eq_some_iff.2 hentry⟩
  | username hused htext => exact ⟨.username, hused, htext⟩
  | password hused _ _ htext => exact ⟨.password, hused, htext⟩
  | cookie hused htext => exact ⟨.cookie, hused, htext⟩

end Config

/-! ## configs that are alike to a template -/

/-- Two configs, each under an environment of its own, are alike to a template: they
have the same settings as far as it uses them, and the environments agree on the
names that are referred to there. -/
structure Alike (t : RequestTemplate) (c c' : Config) (env env' : Environment) : Prop where
  settings : ∀ s, t.Uses s → c.get? s = c'.get? s
  names : ∀ text name, c.Expands t text → Refers text name → env name = env' name

namespace Alike

variable {t : RequestTemplate} {c c' : Config} {env env' : Environment}
  (h : Alike t c c' env env')
include h

theorem expand_eq {text : String} (hused : c.Expands t text) :
    env.expand text = env'.expand text :=
  expand_congr fun name => h.names text name hused

theorem base_eq : c.base env = c'.base env' := by
  have hbase : c.baseUrl = c'.baseUrl := h.settings .baseUrl trivial
  rw [Config.base, Config.base, ← hbase]
  cases htext : c.baseUrl with
  | none => rfl
  | some text => exact h.expand_eq (.base htext)

theorem commonHeaders_eq (hused : t.noHeaders = false) :
    c.commonHeaders env = c'.commonHeaders env' := by
  have hheaders : c.headers = c'.headers := Dict.eq_of_get? fun key => h.settings (.header key) hused
  rw [c.commonHeaders_eq_map, c'.commonHeaders_eq_map, ← hheaders]
  refine List.map_congr_left fun e he => ?_
  rw [h.expand_eq (.header hused he)]

theorem credentials_eq (hused : t.noAuth = false) : c.credentials env = c'.credentials env' := by
  have husername : c.auth.username = c'.auth.username := h.settings .username hused
  have hpassword : c.auth.password = c'.auth.password := h.settings .password hused
  rw [Config.credentials, Config.credentials, ← husername, ← hpassword]
  split
  · next user huser =>
    obtain ⟨hname, hne⟩ := Option.filter_eq_some_iff.1 huser
    rw [h.expand_eq (.username hused hname)]
    cases htext : c.auth.password with
    | none => rfl
    | some text =>
      rw [Option.getD_some, h.expand_eq (.password hused hname (by simpa using hne) htext)]
  · rfl

theorem cookie_eq (hused : t.noAuth = false) : c.cookie env = c'.cookie env' := by
  have hcookie : c.auth.cookie = c'.auth.cookie := h.settings .cookie hused
  rw [Config.cookie, Config.cookie, ← hcookie]
  cases htext : c.auth.cookie.filter (· ≠ "") with
  | none => rfl
  | some text =>
    rw [Option.map_some, Option.map_some,
      h.expand_eq (.cookie hused (Option.filter_eq_some_iff.1 htext).1)]

theorem sharedHeaders_eq : c.sharedHeaders env t = c'.sharedHeaders env' t := by
  have hcommon : (if t.noHeaders then [] else c.commonHeaders env) =
      if t.noHeaders then [] else c'.commonHeaders env' := by
    split
    · rfl
    · next hused => exact h.commonHeaders_eq (by simpa using hused)
  have hcookie : (if t.noAuth then none else c.cookie env) =
      if t.noAuth then none else c'.cookie env' := by
    split
    · rfl
    · next hused => exact h.cookie_eq (by simpa using hused)
  rw [Config.sharedHeaders, Config.sharedHeaders, hcommon, hcookie]

/-- The template is resolved to the same request, or fails alike, and draws as many
values. -/
theorem resolve_eq (ctx : Context) (draws : Draws) :
    c.resolve env t ctx draws = c'.resolve env' t ctx draws := by
  have hcredentials : (if t.noAuth then none else c.credentials env) =
      if t.noAuth then none else c'.credentials env' := by
    split
    · rfl
    · next hused => exact h.credentials_eq (by simpa using hused)
  simp only [Config.resolve, Config.resolveUrl, Config.assemble, Config.absoluteUrl, h.base_eq,
    h.sharedHeaders_eq, hcredentials]

end Alike

/-- Settings and the environment are read only where a template allows it.  Without
authentication it comes to the same under every authentication of the config, and
without common headers under all common headers.  Two environments make no
difference if they agree on the names that occur in the settings that it uses,
whatever stands in the template and in the values of variables. -/
theorem resolve_permitted (t : RequestTemplate) (ctx : Context) (draws : Draws) :
    (t.noAuth = true → ∀ (c : Config) (env : Environment) (auth : Auth),
      Config.resolve { c with auth } env t ctx draws = c.resolve env t ctx draws) ∧
    (t.noHeaders = true → ∀ (c : Config) (env : Environment) (headers : Dict String),
      Config.resolve { c with headers } env t ctx draws = c.resolve env t ctx draws) ∧
    ∀ (c : Config) (env env' : Environment),
      (∀ s text name, t.Uses s → c.get? s = some text → Refers text name → env name = env' name) →
      c.resolve env t ctx draws = c.resolve env' t ctx draws := by
  refine ⟨fun hflag c env auth => ?_, fun hflag c env headers => ?_, fun c env env' hagree => ?_⟩
  · have hunused : t.noAuth ≠ false := by rw [hflag]; decide
    refine Alike.resolve_eq ⟨fun s hused => ?_, fun _ _ _ _ => rfl⟩ ctx draws
    cases s with
    | baseUrl | header => rfl
    | username | password | cookie => exact absurd hused hunused
  · have hunused : t.noHeaders ≠ false := by rw [hflag]; decide
    refine Alike.resolve_eq ⟨fun s hused => ?_, fun _ _ _ _ => rfl⟩ ctx draws
    cases s with
    | baseUrl | username | password | cookie => rfl
    | header => exact absurd hused hunused
  · refine Alike.resolve_eq ⟨fun _ _ => rfl, fun text name hexpands hrefers => ?_⟩ ctx draws
    obtain ⟨s, hused, htext⟩ := hexpands.exists_uses
    exact hagree s text name hused htext hrefers

/-- A template that refers to the environment itself, and uses nothing of a config but
its base. -/
def aloof : RequestTemplate :=
  { RequestTemplate.bare "POST" "/?key=$\x7bSECRET\x7d" with
    headers := ["X-Key: $\x7bSECRET\x7d"]
    body := "\x7b\x7bnote\x7d\x7d"
    noAuth := true
    noHeaders := true }

/-- A config whose settings, but for the base, refer to the environment. -/
def secretive : Config :=
  { Config.empty with
    baseUrl := some "http://[::1]"
    headers := Dict.empty.insert "X-Key" "$\x7bSECRET\x7d"
    auth := ⟨some "user", some "$\x7bSECRET\x7d", some "session=$\x7bSECRET\x7d"⟩ }

/-- A variable whose value looks like a reference. -/
def referringNote : Context := Dict.empty.insert "note" (.string "$\x7bSECRET\x7d")

/-- Neither these settings nor the environment make a difference to that template. -/
theorem resolve_permitted_aloof :
    Config.resolve { secretive with auth := ⟨none, none, none⟩ } (fun _ => none) aloof
        referringNote ⟨id, id, 0⟩ =
      secretive.resolve (fun _ => none) aloof referringNote ⟨id, id, 0⟩ ∧
    Config.resolve { secretive with headers := {} } (fun _ => none) aloof
        referringNote ⟨id, id, 0⟩ =
      secretive.resolve (fun _ => none) aloof referringNote ⟨id, id, 0⟩ ∧
    secretive.resolve (fun _ => none) aloof referringNote ⟨id, id, 0⟩ =
      secretive.resolve (fun _ => some "s3cret") aloof referringNote ⟨id, id, 0⟩ := by
  obtain ⟨hauth, hheaders, henv⟩ := resolve_permitted aloof referringNote ⟨id, id, 0⟩
  have hagree : ∀ s text name, aloof.Uses s → secretive.get? s = some text →
      Refers text name → none = some "s3cret" := by
    intro s text name hused htext hrefers
    cases s with
    | baseUrl =>
      cases htext
      have hplain : '$' ∉ "http://[::1]".toList := by decide
      exact absurd hrefers (Environment.not_refers_of_not_infix
        (fun hpart => hplain (hpart.subset List.mem_cons_self)) name)
    | header | username | password | cookie => cases hused
  exact ⟨hauth rfl secretive (fun _ => none) ⟨none, none, none⟩,
    hheaders rfl secretive (fun _ => none) {},
    henv secretive (fun _ => none) (fun _ => some "s3cret") hagree⟩

end HttpChain
