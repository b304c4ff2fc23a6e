import HttpChain.Proofs.Variable.Capture
import HttpChain.Proofs.Writes
import HttpChain.WriteBack

/-!
# HttpChain.Proofs.Config.WriteBack

What is written back into a config.  Writing back walks what a template extracts
with a config that changes on the way; `writes` says what is written without one,
and the config behind it is the one before it with these settings written in turn
(`config_writeBack`), in one call or in many (`writeBackAll_eq`).
-/

namespace HttpChain

namespace Config

/-! ## settings -/

/-- The key of a setting. -/
def Setting.key : Setting → String
  | baseUrl => "base_url"
  | username => "auth.username"
  | password => "auth.password"
  | cookie => "auth.cookie"
  | header name => "headers." ++ name

/-- Only its key names a setting. -/
theorem Setting.eq_key_of_ofKey? {key : String} {s : Setting} (h : ofKey? key = some s) :
    key = s.key := by
  unfold ofKey? at h
  split at h
  · cases h; rfl
  · cases h; rfl
  · cases h; rfl
  · cases h; rfl
  · split at h
    · next c cs hbehind =>
      cases h
      rw [Text.after?_eq_some_iff] at hbehind
      exact String.toList_inj.1 (by simp [hbehind, Setting.key])
    · cases h

theorem Setting.ofKey?_header {name : String} (h : name ≠ "") :
    ofKey? ("headers." ++ name) = some (header name) := by
  have hkey : ("headers." ++ name).toList = "headers.".toList ++ name.toList := String.toList_append
  have hother : ∀ key : String, key.toList.head? ≠ some 'h' → "headers." ++ name ≠ key := by
    rintro key hhead rfl
    exact hhead (by rw [hkey]; rfl)
  have hbehind := Text.after?_eq_some_iff.2 hkey
  obtain ⟨c, cs, hname⟩ := List.exists_cons_of_ne_nil (l := name.toList) (by simpa using h)
  unfold ofKey?
  split
  · next heq => exact absurd heq (hother _ (by decide))
  · next heq => exact absurd heq (hother _ (by decide))
  · next heq => exact absurd heq (hother _ (by decide))
  · next heq => exact absurd heq (hother _ (by decide))
  · have hofList : String.ofList (c :: cs) = name := by rw [← hname, String.ofList_toList]
    rw [hbehind, hname, ← hofList]

/-- The text of a setting. -/
def get? (c : Config) : Setting → Option String
  | .baseUrl => c.baseUrl
  | .username => c.auth.username
  | .password => c.auth.password
  | .cookie => c.auth.cookie
  | .header name => c.headers.get? name

/-- A setting that is written takes its text, and no other one changes. -/
theorem get?_set (c : Config) (value : String) (s s' : Setting) :
    (c.set value s).get? s' = if s = s' then some value else c.get? s' := by
  cases s <;> cases s' <;> simp [set, get?, Dict.get?_insert]

/-- Write settings in turn. -/
def setAll (c : Config) (writes : List (Setting × String)) : Config :=
  writes.foldl (fun c w => c.set w.2 w.1) c

theorem setAll_append (c : Config) (xs ys : List (Setting × String)) :
    c.setAll (xs ++ ys) = (c.setAll xs).setAll ys := List.foldl_append

/-- What of a config is no setting. -/
def rest (c : Config) : Option UInt64 × Dict RequestTemplate × Dict (List RawStep) :=
  (c.timeout, c.requests, c.chains)

theorem rest_set (c : Config) (value : String) (s : Setting) : (c.set value s).rest = c.rest := by
  cases s <;> rfl

theorem rest_setAll (c : Config) (writes : List (Setting × String)) :
    (c.setAll writes).rest = c.rest := by
  induction writes generalizing c with
  | nil => rfl
  | cons w writes ih => exact (ih (c.set w.2 w.1)).trans (c.rest_set w.2 w.1)

theorem get?_setAll (c : Config) (writes : List (Setting × String)) (s : Setting) :
    (c.setAll writes).get? s = (lastWrite? (fun w => w = s) writes).or (c.get? s) :=
  get_foldl (fun c : Config => c.get? s)
    (fun c w => by simpa using c.get?_set w.2 w.1 s) writes c

/-- Whatever a setting holds, it has held before or has been written to it. -/
theorem mem_of_get?_setAll {c : Config} {writes : List (Setting × String)} {s : Setting}
    {text : String} (h : (c.setAll writes).get? s = some text) :
    c.get? s = some text ∨ (s, text) ∈ writes := by
  rw [get?_setAll] at h
  rcases Option.or_eq_some_iff.1 h with h | ⟨-, h⟩
  · obtain ⟨s', hmem, hs'⟩ := mem_of_lastWrite? h
    obtain rfl : s' = s := by simpa using hs'
    exact .inr hmem
  · exact .inl h

end Config

/-! ## writing back -/

open Config (Setting)

namespace RequestTemplate

/-- The paths that a template extracts settings from, as captures under the keys of
the settings. -/
def settingCaptures (t : RequestTemplate) : List Capture :=
  t.extractToConfig.toList.map fun e => ⟨e.1, e.2⟩

/-- The settings that values of a response body are written to. -/
def settingWrites (t : RequestTemplate) (body : String) : List (Setting × String) :=
  (Capture.hits t.settingCaptures body).filterMap fun h =>
    (Setting.ofKey? h.1).map fun s => (s, h.2.text)

/-- The cookie of a response that is written. -/
def cookieWrites (t : RequestTemplate) (response : Response) : List (Setting × String) :=
  (((t.extractCookie.filter (· ≠ "")).bind response.cookie?).map fun pair =>
    (Setting.cookie, pair)).toList

/-- The settings that a response is written to. -/
def writes (t : RequestTemplate) (response : Response) : List (Setting × String) :=
  t.settingWrites response.body ++ t.cookieWrites response

/-- A setting is written from a body if the template extracts it under its key and
the path selects something of the document. -/
theorem mem_settingWrites_iff {t : RequestTemplate} {body : String} {s : Setting} {text : String} :
    (s, text) ∈ t.settingWrites body ↔ Setting.ofKey? s.key = some s ∧
      ∃ document path value, Json.read? body = some document ∧
        t.extractToConfig.get? s.key = some path ∧
        (Capture.mk s.key path).value document = .ok value ∧ value.text = text := by
  rw [settingWrites, Capture.hits]
  cases hbody : Json.read? body with
  | none => simp
  | some document =>
    simp only [settingCaptures, List.mem_filterMap, List.mem_map, Prod.exists, Option.some.injEq,
      Dict.get?_eq_some_iff, Option.map_eq_some_iff, Prod.mk.injEq]
    constructor
    · rintro ⟨key, value, ⟨c, ⟨key', path, hmem, rfl⟩, hhit⟩, s', hs', rfl, rfl⟩
      rw [Capture.hit?] at hhit
      split at hhit
      · next v hvalue =>
        cases hhit
        obtain rfl := Setting.eq_key_of_ofKey? hs'
        exact ⟨hs', document, path, value, rfl, hmem, hvalue, rfl⟩
      · cases hhit
    · rintro ⟨hs, _, path, value, rfl, hmem, hvalue, rfl⟩
      refine ⟨s.key, value, ⟨⟨s.key, path⟩, ⟨s.key, path, hmem, rfl⟩, ?_⟩, s, hs, rfl, rfl⟩
      rw [Capture.hit?, hvalue]

/-- A setting is written from a body once at most. -/
theorem eq_of_mem_settingWrites {t : RequestTemplate} {body : String} {s : Setting}
    {text text' : String} (h : (s, text) ∈ t.settingWrites body)
    (h' : (s, text') ∈ t.settingWrites body) : text = text' := by
  obtain ⟨-, document, path, value, hdocument, hpath, hvalue, rfl⟩ := mem_settingWrites_iff.1 h
  obtain ⟨-, document', path', value', hdocument', hpath', hvalue', rfl⟩ :=
    mem_settingWrites_iff.1 h'
  rw [hdocument, Option.some.injEq] at hdocument'
  subst hdocument'
  rw [hpath, Option.some.injEq] at hpath'
  subst hpath'
  rw [hvalue, Except.ok.injEq] at hvalue'
  rw [hvalue']

theorem eq_cookie_of_mem_cookieWrites {t : RequestTemplate} {response : Response}
    {w : Setting × String} (h : w ∈ t.cookieWrites response) : w.1 = .cookie := by
  rw [cookieWrites, Option.mem_toList, Option.map_eq_some_iff] at h
  obtain ⟨pair, -, rfl⟩ := h
  rfl

end RequestTemplate

namespace WriteBack

/-- On the way from one state to another settings are written in turn, and it is marked
whether there are any. -/
structure Writes (w : WriteBack) (writes : List (Setting × String)) (w' : WriteBack) : Prop where
  config : w'.config = w.config.setAll writes
  updated : w'.updated = (w.updated || !writes.isEmpty)

/-- Whatever is said, nothing is written. -/
theorem Writes.nothing (w : WriteBack) (log : List Log.Event) : w.Writes [] { w with log } where
  config := rfl
  updated := by simp

theorem Writes.trans {w w' w'' : WriteBack} {xs ys : List (Setting × String)}
    (h : w.Writes xs w') (h' : w'.Writes ys w'') : w.Writes (xs ++ ys) w'' where
  config := by rw [h'.config, h.config, Config.setAll_append]
  updated := by
    rw [h'.updated, h.updated]
    cases xs <;> simp

theorem writes_setting (document : Json) (w : WriteBack) (key path : String) :
    w.Writes (((Capture.mk key path).hit? document).bind fun h =>
      (Setting.ofKey? h.1).map fun s => (s, h.2.text)).toList (w.setting document key path) := by
  rw [setting, Capture.hit?]
  cases (Capture.mk key path).value document with
  | error f => exact .nothing w _
  | ok v =>
    simp only [Config.setValue, Option.bind_some]
    cases Setting.ofKey? key with
    | none => exact .nothing w _
    | some s => exact ⟨rfl, by simp [say, pure, Except.pure]⟩

theorem writes_foldl_setting (document : Json) (entries : List (String × String))
    (w : WriteBack) :
    w.Writes (((entries.map fun e => Capture.mk e.1 e.2).filterMap
      (Capture.hit? document)).filterMap fun h => (Setting.ofKey? h.1).map fun s => (s, h.2.text))
      (entries.foldl (fun w e => w.setting document e.1 e.2) w) := by
  induction entries generalizing w with
  | nil => exact .nothing w w.log
  | cons e entries ih =>
    have hall := (w.writes_setting document e.1 e.2).trans (ih (w.setting document e.1 e.2))
    rw [List.foldl_cons, List.map_cons, List.filterMap_cons]
    cases hhit : (Capture.mk e.1 e.2).hit? document with
    | none =>
      rw [hhit] at hall
      exact hall
    | some h =>
      rw [hhit, Option.bind_some] at hall
      rw [List.filterMap_cons]
      cases hkey : Setting.ofKey? h.1 with
      | none =>
        rw [hkey] at hall
        exact hall
      | some s =>
        rw [hkey] at hall
        exact hall

theorem writes_settings (t : RequestTemplate) (body : String) (w : WriteBack) :
    w.Writes (t.settingWrites body) (w.settings t body) := by
  rw [settings, RequestTemplate.settingWrites, Capture.hits, RequestTemplate.settingCaptures]
  by_cases hempty : t.extractToConfig.isEmpty = true
  · rw [if_pos hempty, Dict.eq_empty_of_isEmpty hempty]
    cases Json.read? body <;> exact .nothing w w.log
  · rw [if_neg hempty]
    cases Json.read? body with
    | none => exact .nothing w _
    | some document => exact writes_foldl_setting document t.extractToConfig.toList w

theorem writes_cookie (t : RequestTemplate) (response : Response) (w : WriteBack) :
    w.Writes (t.cookieWrites response) (w.cookie t response) := by
  rw [cookie, RequestTemplate.cookieWrites]
  cases t.extractCookie.filter (· ≠ "") with
  | none => exact .nothing w w.log
  | some name =>
    simp only [Option.bind_some]
    cases response.cookie? name with
    | none => exact .nothing w _
    | some pair => exact ⟨rfl, by simp [say]⟩

end WriteBack

namespace Config

theorem writes_writeBack (c : Config) (t : RequestTemplate) (response : Response) :
    (WriteBack.start c).Writes (t.writes response) (c.writeBack t response) :=
  (WriteBack.writes_settings t response.body (.start c)).trans
    (WriteBack.writes_cookie t response _)

/-- Writing back writes settings in turn. -/
theorem config_writeBack (c : Config) (t : RequestTemplate) (response : Response) :
    (c.writeBack t response).config = c.setAll (t.writes response) :=
  (c.writes_writeBack t response).config

/-- It is marked whether anything is written back. -/
theorem updated_writeBack (c : Config) (t : RequestTemplate) (response : Response) :
    (c.writeBack t response).updated = !(t.writes response).isEmpty := by
  rw [(c.writes_writeBack t response).updated]
  rfl

/-- A config to which nothing is written back is as it was. -/
theorem config_writeBack_of_not_updated {c : Config} {t : RequestTemplate} {response : Response}
    (h : (c.writeBack t response).updated = false) : (c.writeBack t response).config = c := by
  rw [updated_writeBack, Bool.not_eq_false', List.isEmpty_iff] at h
  rw [config_writeBack, h]
  rfl

/-- What is extracted for a setting other than the cookie is what it holds then. -/
theorem get?_writeBack {c : Config} {t : RequestTemplate} {response : Response} {s : Setting}
    {text : String} (hs : s ≠ .cookie) (h : (s, text) ∈ t.settingWrites response.body) :
    (c.writeBack t response).config.get? s = some text := by
  have hlast : lastWrite? (fun w => decide (w = s)) (t.writes response) = some text := by
    refine lastWrite?_eq_some (List.mem_append_left _ h) (by simp) fun w hw hws => ?_
    obtain ⟨s', text'⟩ := w
    obtain rfl : s' = s := by simpa using hws
    rcases List.mem_append.1 hw with hw | hw
    · exact RequestTemplate.eq_of_mem_settingWrites hw h
    · exact absurd (RequestTemplate.eq_cookie_of_mem_cookieWrites hw) hs
  rw [config_writeBack, get?_setAll, hlast, Option.some_or]

/-- Write back what a list of responses holds, each under its template. -/
def writeBackAll (c : Config) (calls : List (RequestTemplate × Response)) : Config :=
  calls.foldl (fun c call => (c.writeBack call.1 call.2).config) c

theorem writeBackAll_eq (c : Config) (calls : List (RequestTemplate × Response)) :
    c.writeBackAll calls = c.setAll (calls.flatMap fun call => call.1.writes call.2) := by
  induction calls generalizing c with
  | nil => rfl
  | cons call calls ih =>
    have hcons : c.writeBackAll (call :: calls) =
        (c.writeBack call.1 call.2).config.writeBackAll calls := rfl
    rw [hcons, ih, config_writeBack, List.flatMap_cons, setAll_append]

end Config

end HttpChain
