import HttpChain.Proofs.Config.WriteBack
import HttpChain.Proofs.Http.Headers
import HttpChain.Proofs.Request.Resolution
import HttpChain.Proofs.Variable.Environment

/-!
# HttpChain.Proofs.Request.CommonHeaders

Which common header a request carries.  A config may hold several headers whose
names differ in case only; a request carries the one whose name is the last of them
in order, unless it is the cookie (`get?_sharedHeaders`).  A header that is written
back therefore takes effect under every template if, and only if, the last of the
names it is known by holds its value (`writeBack_header_iff`).
-/

namespace HttpChain

open Text (sameName)

namespace Config

/-- The common headers are written in the order of their names. -/
theorem commonHeaders_eq (c : Config) (env : Environment) :
    c.commonHeaders env =
      HeaderList.writeAll [] (c.headers.toList.map fun h => (h.1, env.expand h.2)) := by
  rw [commonHeaders, HeaderList.writeAll, List.foldl_map]

theorem commonHeaders_eq_map (c : Config) (env : Environment) :
    c.commonHeaders env =
      (HeaderList.lasting c.headers.toList).map fun h => (h.1, env.expand h.2) := by
  rw [commonHeaders_eq, HeaderList.writeAll_nil, HeaderList.lasting_map]

theorem get?_commonHeaders (c : Config) (env : Environment) (name : String) :
    (c.commonHeaders env).get? name =
      (lastWrite? (sameName · name) c.headers.toList).map env.expand := by
  rw [commonHeaders_eq, HeaderList.get?_writeAll, lastWrite?_map]
  exact Option.or_none

/-- A template starts from the cookie, and from the common headers where that is not
asked for or not sent. -/
theorem get?_sharedHeaders (c : Config) (env : Environment) (t : RequestTemplate) (name : String) :
    (c.sharedHeaders env t).get? name =
      (if sameName name "Cookie" ∧ t.noAuth = false then c.cookie env else none).or
        (if t.noHeaders then none
          else (lastWrite? (sameName · name) c.headers.toList).map env.expand) := by
  have hcommon : HeaderList.get? (if t.noHeaders then [] else c.commonHeaders env) name =
      if t.noHeaders then none
      else (lastWrite? (sameName · name) c.headers.toList).map env.expand := by
    split
    · rfl
    · exact c.get?_commonHeaders env name
  rw [sharedHeaders, Text.sameName_comm, ← hcommon]
  cases t.noAuth with
  | true => simp
  | false =>
    cases c.cookie env with
    | none => simp
    | some cookie =>
      simp only [Bool.false_eq_true, if_false, HeaderList.get?_set, and_true]
      split <;> rfl

/-- Where a template keeps the common headers, all but the cookie are theirs. -/
theorem get?_sharedHeaders_of_common (c : Config) (env : Environment) {t : RequestTemplate}
    {name : String} (hcommon : t.noHeaders = false) (hcookie : sameName name "Cookie" = false) :
    (c.sharedHeaders env t).get? name =
      (lastWrite? (sameName · name) c.headers.toList).map env.expand := by
  rw [get?_sharedHeaders, hcommon, hcookie]
  simp

/-- A request carries a header as its own lines have it, or else as the config does. -/
theorem header?_requestOf (c : Config) (env : Environment) (t : RequestTemplate) (ctx : Context)
    (draws : Draws) (method : Method) (name : String) :
    (c.requestOf env t ctx draws method).header? name =
      (lastWrite? (sameName · name) ((t.lineTexts ctx draws).filterMap HeaderList.line?)).or
        ((c.sharedHeaders env t).get? name) := by
  rw [Request.header?, headers_requestOf, HeaderList.setLines_eq, HeaderList.get?_writeAll]

/-- The last of the names that a header is known by holds a value. -/
def Effective (c : Config) (name value : String) : Prop :=
  ∃ spelling, c.headers.get? spelling = some value ∧ sameName spelling name = true ∧
    ∀ other, (c.headers.get? other).isSome = true → sameName other name = true → other ≤ spelling

theorem lastWrite?_headers_iff {c : Config} {name value : String} :
    lastWrite? (sameName · name) c.headers.toList = some value ↔ c.Effective name value := by
  rw [Dict.toList, c.headers.ascending.lastWrite?_eq_some_iff]
  simp only [Effective, Dict.get?_eq_some_iff, Option.isSome_iff_exists, Prod.forall,
    Dict.toList, forall_exists_index]

/-- A value that refers to nothing reaches every request that leaves a common header
alone, if and only if the last of the names of that header holds it. -/
theorem effective_iff (c : Config) {name value : String} (hcookie : sameName name "Cookie" = false)
    (hplain : ∀ key, ¬ Environment.Refers value key) :
    (∀ env t ctx draws r log, (c.resolve env t ctx draws).1 = .ok (r, log) →
      t.noHeaders = false →
      (∀ line ∈ t.lineTexts ctx draws, ∀ h, HeaderList.line? line = some h →
        sameName h.1 name = false) →
      r.header? name = some value) ↔ c.Effective name value := by
  rw [← lastWrite?_headers_iff]
  constructor
  · intro h
    have hresolve := c.resolve_of_loopback (fun _ => none) (t := .bare "GET" "http://[::1]/")
      rfl rfl {} ⟨id, id, 0⟩
    have hheader := h _ _ _ _ _ _ hresolve rfl (by rintro line ⟨⟩)
    rw [header?_requestOf, get?_sharedHeaders_of_common c _ rfl hcookie] at hheader
    obtain ⟨text, htext, hexpand⟩ := Option.map_eq_some_iff.1 hheader
    rw [Environment.expand_of_unset fun _ _ => rfl] at hexpand
    rw [htext, hexpand]
  · intro h env t ctx draws r log hresolve hcommon hlines
    obtain ⟨method, -, -, -, rfl⟩ := of_resolve hresolve
    have hown : lastWrite? (sameName · name)
        ((t.lineTexts ctx draws).filterMap HeaderList.line?) = none := by
      rw [lastWrite?_eq_none_iff]
      intro w hw
      obtain ⟨line, hline, hw⟩ := List.mem_filterMap.1 hw
      exact hlines line hline w hw
    rw [header?_requestOf, hown, get?_sharedHeaders_of_common c env hcommon hcookie, h]
    exact congrArg some (Environment.expand_of_unset fun key hrefers =>
      absurd hrefers (hplain key))

end Config

/-- A header that is written back holds the value that its path selects.  It takes
effect in every request that keeps the common headers and does not set it itself if,
and only if, no other spelling of its name that comes behind in order holds
something else: of the names that the header is known by, the last one has to hold
the value. -/
theorem writeBack_header_iff (c : Config) (t : RequestTemplate) (response : Response)
    {document value : Json} {name path : String}
    (hdocument : Json.read? response.body = some document)
    (hpath : t.extractToConfig.get? ("headers." ++ name) = some path)
    (hvalue : (Capture.mk ("headers." ++ name) path).value document = .ok value)
    (hname : name ≠ "") (hcookie : sameName name "Cookie" = false)
    (hplain : ¬ ['$', '\x7b'] <:+: value.text.toList) :
    (c.writeBack t response).config.headers.get? name = some value.text ∧
    ((∀ env t' ctx draws r log,
      ((c.writeBack t response).config.resolve env t' ctx draws).1 = .ok (r, log) →
      t'.noHeaders = false →
      (∀ line ∈ t'.lineTexts ctx draws, ∀ h, HeaderList.line? line = some h →
        sameName h.1 name = false) →
      r.header? name = some value.text) ↔
      ∃ spelling, (c.writeBack t response).config.headers.get? spelling = some value.text ∧
        sameName spelling name = true ∧
        ∀ other, ((c.writeBack t response).config.headers.get? other).isSome = true →
          sameName other name = true → other ≤ spelling) := by
  have hwritten : (Config.Setting.header name, value.text) ∈ t.settingWrites response.body :=
    RequestTemplate.mem_settingWrites_iff.2 ⟨Config.Setting.ofKey?_header hname, document, path,
      value, hdocument, hpath, hvalue, rfl⟩
  have hheader : Config.Setting.header name ≠ .cookie := Config.Setting.noConfusion
  exact ⟨Config.get?_writeBack hheader hwritten,
    Config.effective_iff _ hcookie (Environment.not_refers_of_not_infix hplain)⟩

/-- A template that keeps the token of its response as a common header. -/
def login : RequestTemplate :=
  { RequestTemplate.bare "POST" "http://[::1]/login" with
    extractToConfig := Dict.empty.insert "headers.X-Token" "token" }

/-- A response with a token. -/
def tokenResponse : Response := ⟨default, [], "\x7b\"token\":\"new\"\x7d", 0⟩

theorem writes_login : login.writes tokenResponse = [(.header "X-Token", "new")] := by
  decide +kernel

theorem mem_settingWrites_login :
    (Config.Setting.header "X-Token", "new") ∈ login.settingWrites tokenResponse.body := by
  have hmem : (Config.Setting.header "X-Token", "new") ∈ login.writes tokenResponse := by
    rw [writes_login]
    exact List.mem_cons_self
  rcases List.mem_append.1 hmem with h | h
  · exact h
  · cases RequestTemplate.eq_cookie_of_mem_cookieWrites h

/-- In a config without headers the token takes effect. -/
theorem writeBack_header_first :
    (Config.empty.writeBack login tokenResponse).config.headers.get? "X-Token" = some "new" ∧
      ∃ r log, ((Config.empty.writeBack login tokenResponse).config.resolve (fun _ => none)
        (.bare "GET" "http://[::1]/") {} ⟨id, id, 0⟩).1 = .ok (r, log) ∧
        r.header? "X-Token" = some "new" := by
  obtain ⟨-, document, path, value, hdocument, hpath, hvalue, htext⟩ :=
    RequestTemplate.mem_settingWrites_iff.1 mem_settingWrites_login
  have hplain : ¬ ['$', '\x7b'] <:+: value.text.toList := by
    rw [htext]
    decide
  obtain ⟨hheld, heffect⟩ := writeBack_header_iff Config.empty login tokenResponse hdocument hpath
    hvalue (by decide) (by decide) hplain
  rw [htext] at hheld heffect
  have honly : ∀ other, ((Config.empty.writeBack login tokenResponse).config.headers.get?
      other).isSome = true → other ≤ "X-Token" := by
    intro other hother
    rw [Config.config_writeBack, writes_login] at hother
    change ((Dict.empty.insert "X-Token" "new").get? other).isSome = true at hother
    rw [Dict.get?_insert] at hother
    split at hother
    · next heq => exact heq ▸ String.le_refl _
    · cases hother
  refine ⟨hheld, _, _, Config.resolve_of_loopback _ _ rfl rfl _ _, ?_⟩
  exact heffect.2 ⟨"X-Token", hheld, by decide, fun other hother _ => honly other hother⟩
    _ _ _ _ _ _ (Config.resolve_of_loopback _ _ rfl rfl _ _) rfl (by rintro line ⟨⟩)

/-- A config that has a token under another spelling of its name. -/
def withStaleToken : Config :=
  { Config.empty with headers := Dict.empty.insert "x-token" "old" }

/-- In a config that has the token under a spelling that comes behind, it does not. -/
theorem not_writeBack_header : ¬ ∀ (c : Config) (t : RequestTemplate) (response : Response)
    (name value : String), name ≠ "" → sameName name "Cookie" = false →
    ¬ ['$', '\x7b'] <:+: value.toList →
    (Config.Setting.header name, value) ∈ t.settingWrites response.body →
    ∀ env t' ctx draws r log,
      ((c.writeBack t response).config.resolve env t' ctx draws).1 = .ok (r, log) →
      t'.noHeaders = false →
      (∀ line ∈ t'.lineTexts ctx draws, ∀ h, HeaderList.line? line = some h →
        sameName h.1 name = false) →
      r.header? name = some value := by
  intro h
  have hstale := h withStaleToken login tokenResponse "X-Token" "new" (by decide) (by decide)
    (by decide) mem_settingWrites_login (fun _ => none) (.bare "GET" "http://[::1]/") {} ⟨id, id, 0⟩
    _ _ (Config.resolve_of_loopback _ _ rfl rfl _ _) rfl (by rintro line ⟨⟩)
  have hold : ((withStaleToken.writeBack login tokenResponse).config.requestOf (fun _ => none)
      (.bare "GET" "http://[::1]/") {} ⟨id, id, 0⟩ .get).header? "X-Token" = some "old" := by
    decide +kernel
  have hsame : "old" = "new" := Option.some.inj (hold.symm.trans hstale)
  exact absurd hsame (by decide)

end HttpChain
