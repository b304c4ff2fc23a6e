import HttpChain.Proofs.Config.WriteBack
import HttpChain.Proofs.Variable.Extraction

/-!
# HttpChain.Proofs.Config.Stored

What a response leaves in a config, exactly.  `RequestTemplate.Stores` says which text it
stores under which setting, each setting on its own: what the path under its key
selects, and for the cookie first of all the one that the template asks for.  After any
number of responses a setting holds what was stored there last, or what it held before,
and nothing else of the config changes (`writeBack_exact`).
-/

namespace HttpChain

open Config (Setting)

/-! ## keys -/

namespace Config.Setting

/-- A key names the setting whose key it is; a header has to have a name. -/
theorem ofKey?_eq_some_iff {key : String} {s : Setting} :
    ofKey? key = some s ↔ key = s.key ∧ s ≠ .header "" := by
  constructor
  · intro h
    have hkey : key = s.key := eq_key_of_ofKey? h
    refine ⟨hkey, fun hs => ?_⟩
    subst hkey hs
    have hnone : ofKey? (key (.header "")) = none := by decide
    rw [hnone] at h
    cases h
  · intro h
    obtain ⟨rfl, hs⟩ := h
    cases s with
    | header name => exact ofKey?_header fun hname => hs (congrArg header hname)
    | baseUrl | username | password | cookie => rfl

end Config.Setting

namespace RequestTemplate

/-! ## what is stored -/

/-- A response sets the cookie that a template asks for, and this is how it is sent back. -/
def FindsCookie (t : RequestTemplate) (response : Response) (text : String) : Prop :=
  ∃ name cookie, t.extractCookie = some name ∧ name ≠ "" ∧
    response.cookies.find? (fun c => c.name = name) = some cookie ∧
    text = name ++ "=" ++ cookie.unquoted

/-- A template has a path under the key of a setting that a value of the response is
captured with, and this is the text of that value. -/
def Extracts (t : RequestTemplate) (response : Response) (s : Setting) (text : String) : Prop :=
  s ≠ .header "" ∧ ∃ document path value, Json.read? response.body = some document ∧
    t.extractToConfig.get? s.key = some path ∧ (Capture.mk s.key path).Binds document value ∧
    value.text = text

/-- A response stores a text under a setting: it is extracted for it, or it is the cookie
that the template asks for, which goes before what is extracted for the cookie. -/
def Stores (t : RequestTemplate) (response : Response) (s : Setting) (text : String) : Prop :=
  s = .cookie ∧ t.FindsCookie response text ∨
    ¬ (s = .cookie ∧ ∃ pair, t.FindsCookie response pair) ∧ t.Extracts response s text

variable {t : RequestTemplate} {response : Response} {s : Setting} {text : String}

theorem bind_cookie?_eq_some_iff :
    (t.extractCookie.filter (· ≠ "")).bind response.cookie? = some text ↔
      t.FindsCookie response text := by
  simp only [Option.bind_eq_some_iff, Option.filter_eq_some_iff, Response.cookie?,
    Option.map_eq_some_iff, FindsCookie, Cookie.pair]
  constructor
  · intro h
    obtain ⟨name, ⟨hname, hne⟩, cookie, hfind, rfl⟩ := h
    have hcookie : cookie.name = name := by simpa using List.find?_some hfind
    exact ⟨name, cookie, hname, by simpa using hne, hfind, by rw [hcookie]⟩
  · intro h
    obtain ⟨name, cookie, hname, hne, hfind, rfl⟩ := h
    have hcookie : cookie.name = name := by simpa using List.find?_some hfind
    exact ⟨name, ⟨hname, by simpa using hne⟩, cookie, hfind, by rw [hcookie]⟩

theorem lastWrite?_cookieWrites_eq_some_iff :
    lastWrite? (fun place => decide (place = s)) (t.cookieWrites response) = some text ↔
      s = .cookie ∧ t.FindsCookie response text := by
  rw [← bind_cookie?_eq_some_iff, cookieWrites]
  cases (t.extractCookie.filter (· ≠ "")).bind response.cookie? with
  | none => simp [lastWrite?]
  | some pair => simp [lastWrite?, eq_comm]

theorem lastWrite?_cookieWrites_eq_none_iff :
    lastWrite? (fun place => decide (place = s)) (t.cookieWrites response) = none ↔
      ¬ (s = .cookie ∧ ∃ pair, t.FindsCookie response pair) := by
  rw [Option.eq_none_iff_forall_ne_some, ← exists_and_left, not_exists]
  simp only [ne_eq, lastWrite?_cookieWrites_eq_some_iff]

/-- What is written from a body is what is extracted. -/
theorem mem_settingWrites_iff_extracts :
    (s, text) ∈ t.settingWrites response.body ↔ t.Extracts response s text := by
  simp only [mem_settingWrites_iff, Setting.ofKey?_eq_some_iff, Capture.value_eq_ok_iff, Extracts,
    true_and]

theorem lastWrite?_settingWrites_eq_some_iff :
    lastWrite? (fun place => decide (place = s)) (t.settingWrites response.body) = some text ↔
      t.Extracts response s text := by
  rw [lastWrite?_eq_some_iff_mem fun _ _ => eq_of_mem_settingWrites, mem_settingWrites_iff_extracts]

/-- The last text that a response is written with under a setting is the one that it
stores there. -/
theorem lastWrite?_writes_eq_some_iff :
    lastWrite? (fun place => decide (place = s)) (t.writes response) = some text ↔
      t.Stores response s text := by
  rw [writes, lastWrite?_append, Option.or_eq_some_iff, lastWrite?_cookieWrites_eq_some_iff,
    lastWrite?_cookieWrites_eq_none_iff, lastWrite?_settingWrites_eq_some_iff, Stores]

theorem lastWrite?_writes_eq_none_iff :
    lastWrite? (fun place => decide (place = s)) (t.writes response) = none ↔
      ∀ text, ¬ t.Stores response s text := by
  simp only [Option.eq_none_iff_forall_ne_some, ne_eq, lastWrite?_writes_eq_some_iff]

theorem writes_ne_nil_iff : t.writes response ≠ [] ↔ ∃ s text, t.Stores response s text := by
  constructor
  · intro h
    obtain ⟨w, ws, hws⟩ := List.exists_cons_of_ne_nil h
    by_contra hnone
    simp only [not_exists] at hnone
    have hlast := lastWrite?_eq_none_iff.1 (lastWrite?_writes_eq_none_iff.2 (hnone w.1)) w
      (by simp [hws])
    simp at hlast
  · intro h hnil
    obtain ⟨s, text, hstores⟩ := h
    rw [← lastWrite?_writes_eq_some_iff, hnil] at hstores
    cases hstores

end RequestTemplate

/-! ## what a config holds then -/

namespace Config

variable {c : Config} {t : RequestTemplate} {response : Response}

theorem updated_writeBack_iff :
    (c.writeBack t response).updated = true ↔ ∃ s text, t.Stores response s text := by
  rw [updated_writeBack, ← RequestTemplate.writes_ne_nil_iff]
  simp

theorem rest_writeBackAll (c : Config) (calls : List (RequestTemplate × Response)) :
    (c.writeBackAll calls).rest = c.rest := by
  rw [writeBackAll_eq, rest_setAll]

/-- A setting holds what was stored there last, or else what it held before. -/
theorem get?_writeBackAll {calls : List (RequestTemplate × Response)} {s : Setting}
    {text : String} : (c.writeBackAll calls).get? s = some text ↔
      (∃ before call after, calls = before ++ call :: after ∧ call.1.Stores call.2 s text ∧
        ∀ later ∈ after, ∀ text', ¬ later.1.Stores later.2 s text') ∨
      (∀ call ∈ calls, ∀ text', ¬ call.1.Stores call.2 s text') ∧ c.get? s = some text := by
  rw [writeBackAll_eq, get?_setAll, Option.or_eq_some_iff]
  simp only [lastWrite?_flatMap_eq_some_iff, lastWrite?_flatMap_eq_none_iff,
    RequestTemplate.lastWrite?_writes_eq_some_iff, RequestTemplate.lastWrite?_writes_eq_none_iff]

end Config

/-- What writing responses back makes of a config, exactly.  A response is marked as
written back if it stores a text under a setting, and otherwise leaves the config as it
is.  After any number of responses, each under its template, the timeout, the requests
and the chains are what they were; and a setting holds the text that the last response
to store one there stored, or what it held before if none has.  So a key that names no
setting, a path that is no query or selects nothing, a body that is no JSON and a cookie
that is not set have no part in it. -/
theorem writeBack_exact :
    (∀ (c : Config) (t : RequestTemplate) (response : Response),
      ((c.writeBack t response).updated = true ↔ ∃ s text, t.Stores response s text) ∧
      ((c.writeBack t response).updated = false → (c.writeBack t response).config = c)) ∧
    ∀ (c : Config) (calls : List (RequestTemplate × Response)),
      (c.writeBackAll calls).timeout = c.timeout ∧
      (c.writeBackAll calls).requests = c.requests ∧
      (c.writeBackAll calls).chains = c.chains ∧
      ∀ s text, (c.writeBackAll calls).get? s = some text ↔
        (∃ before call after, calls = before ++ call :: after ∧ call.1.Stores call.2 s text ∧
          ∀ later ∈ after, ∀ text', ¬ later.1.Stores later.2 s text') ∨
        (∀ call ∈ calls, ∀ text', ¬ call.1.Stores call.2 s text') ∧ c.get? s = some text := by
  constructor
  · intro c t response
    exact ⟨Config.updated_writeBack_iff, Config.config_writeBack_of_not_updated⟩
  · intro c calls
    have hrest := c.rest_writeBackAll calls
    simp only [Config.rest, Prod.mk.injEq] at hrest
    obtain ⟨htimeout, hrequests, hchains⟩ := hrest
    exact ⟨htimeout, hrequests, hchains, fun s text => Config.get?_writeBackAll⟩

/-- A template that extracts a value under a key that names no setting. -/
def limits : RequestTemplate :=
  { RequestTemplate.bare "GET" "http://[::1]/limits" with
    extractToConfig := Dict.empty.insert "timeout" "seconds" }

/-- A template that keeps a token in a header and, unless there is a cookie to keep, as the
cookie. -/
def session : RequestTemplate :=
  { RequestTemplate.bare "POST" "http://[::1]/session" with
    extractCookie := some "session"
    extractToConfig :=
      (Dict.empty.insert "headers.X-Token" "token").insert "auth.cookie" "token" }

/-- A response with a token that sets the cookie. -/
def firstSession : Response :=
  ⟨default, [⟨"set-cookie", Text.bytes "session=s1; Path=/"⟩], "\x7b\"token\":\"abc\"\x7d", 0⟩

/-- A response without either. -/
def laterSession : Response := ⟨default, [], "\x7b\x7d", 0⟩

/-- The response to the one template leaves the config as it is; those to the other leave
the token and the cookie of the first of them. -/
theorem writeBack_exact_limits :
    (Config.empty.writeBack limits ⟨default, [], "\x7b\"seconds\":5\x7d", 0⟩).updated = false ∧
    (Config.empty.writeBack limits ⟨default, [], "\x7b\"seconds\":5\x7d", 0⟩).config =
      Config.empty ∧
    let c := Config.empty.writeBackAll [(session, firstSession), (session, laterSession)]
    c.get? (.header "X-Token") = some "abc" ∧ c.get? .cookie = some "session=s1" ∧
      c.timeout = none := by
  obtain ⟨hmarked, hall⟩ := writeBack_exact
  have hupdated : (Config.empty.writeBack limits
      ⟨default, [], "\x7b\"seconds\":5\x7d", 0⟩).updated = false := by decide +kernel
  obtain ⟨htimeout, -, -, hget⟩ :=
    hall Config.empty [(session, firstSession), (session, laterSession)]
  have hlater : ∀ s text, ¬ session.Stores laterSession s text := by
    have hwrites : session.writes laterSession = [] := by decide +kernel
    exact fun s text hstores => RequestTemplate.writes_ne_nil_iff.2 ⟨s, text, hstores⟩ hwrites
  have hfirst : ∀ s text, session.Stores firstSession s text →
      (Config.empty.writeBackAll [(session, firstSession), (session, laterSession)]).get? s =
        some text :=
    fun s text hstores =>
      (hget s text).2 (.inl ⟨[], _, _, rfl, hstores, by simpa using hlater s⟩)
  have hwrites : session.writes firstSession =
      [(.cookie, "abc"), (.header "X-Token", "abc"), (.cookie, "session=s1")] := by decide +kernel
  refine ⟨hupdated, (hmarked _ _ _).2 hupdated, hfirst _ _ ?_, hfirst _ _ ?_, htimeout⟩ <;>
    rw [← RequestTemplate.lastWrite?_writes_eq_some_iff, hwrites] <;> rfl

end HttpChain
