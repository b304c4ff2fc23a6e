import HttpChain.Proofs.Variable.Substitution
import HttpChain.Resolve

/-!
# HttpChain.Proofs.Request.Resolution

What a template comes to.  Resolving draws values on the way; here each text of
a template is named with the variables put into it (`urlText`, `lineTexts`,
`bodyText`), and the request is said in these texts without any drawing
(`resolve_fst`).  A template without dynamic tokens has the same texts whatever
is drawn (`RequestTemplate.Static`).
-/

namespace HttpChain

/-! ## the texts of a template -/

namespace RequestTemplate

variable (t : RequestTemplate) (ctx : Context) (draws : Draws)

/-- The URL of a template with variables put in. -/
def urlText : String := (substitute .query ctx t.url draws).1

/-- The header lines of a template with variables put in. -/
def lineTexts : List String := (substituteAll ctx t.headers (substitute .query ctx t.url draws).2).1

/-- Where the values in the body of a template are drawn from: behind those of the
URL and of the header lines. -/
def bodyDraws : Draws := (substituteAll ctx t.headers (substitute .query ctx t.url draws).2).2

/-- The body of a template with variables put in. -/
def bodyText : String := (substitute .plain ctx t.body (t.bodyDraws ctx draws)).1

end RequestTemplate

/-- The body that a text makes: none if it is empty. -/
def Body.ofText? (text : String) : Option Body := if text = "" then none else some (.ofText text)

namespace Config

/-! ## the request -/

/-- The request of a template with a method. -/
def requestOf (c : Config) (env : Environment) (t : RequestTemplate) (ctx : Context) (draws : Draws)
    (method : Method) : Request where
  method
  url := c.absoluteUrl env (t.urlText ctx draws)
  headers := (c.sharedHeaders env t).setLines (t.lineTexts ctx draws)
  body := Body.ofText? (t.bodyText ctx draws)
  credentials := if t.noAuth then none else c.credentials env

theorem url_requestOf (c : Config) (env : Environment) (t : RequestTemplate) (ctx : Context)
    (draws : Draws) (method : Method) :
    (c.requestOf env t ctx draws method).url = c.absoluteUrl env (t.urlText ctx draws) := by
  simp only [requestOf]

theorem headers_requestOf (c : Config) (env : Environment) (t : RequestTemplate) (ctx : Context)
    (draws : Draws) (method : Method) :
    (c.requestOf env t ctx draws method).headers =
      (c.sharedHeaders env t).setLines (t.lineTexts ctx draws) := by
  simp only [requestOf]

theorem body_requestOf (c : Config) (env : Environment) (t : RequestTemplate) (ctx : Context)
    (draws : Draws) (method : Method) :
    (c.requestOf env t ctx draws method).body = Body.ofText? (t.bodyText ctx draws) := by
  simp only [requestOf]

theorem credentials_requestOf (c : Config) (env : Environment) (t : RequestTemplate)
    (ctx : Context) (draws : Draws) (method : Method) :
    (c.requestOf env t ctx draws method).credentials =
      if t.noAuth then none else c.credentials env := by
  simp only [requestOf]

/-- What resolving a template comes to. -/
theorem resolve_fst (c : Config) (env : Environment) (t : RequestTemplate) (ctx : Context)
    (draws : Draws) :
    (c.resolve env t ctx draws).1 =
      match Method.ofText? t.method with
      | none => .error (.config (.method t.method))
      | some method =>
        match Url.parse (c.absoluteUrl env (t.urlText ctx draws)) with
        | .error f => .error (.config (.url (c.absoluteUrl env (t.urlText ctx draws)) f))
        | .ok _ => .ok (c.requestOf env t ctx draws method, malformedLines (t.lineTexts ctx draws)) := by
  rw [resolve]
  cases Method.ofText? t.method with
  | none => rfl
  | some method =>
    simp only [Drawing.bind_apply, resolveUrl]
    rw [RequestTemplate.urlText]
    cases Url.parse (c.absoluteUrl env (substitute .query ctx t.url draws).1) <;> rfl

/-- A template that is resolved has a method and a URL, and its texts make the
request. -/
theorem of_resolve {c : Config} {env : Environment} {t : RequestTemplate} {ctx : Context}
    {draws : Draws} {r : Request} {log : List Log.Event}
    (h : (c.resolve env t ctx draws).1 = .ok (r, log)) :
    ∃ method url, Method.ofText? t.method = some method ∧ Url.parse r.url = .ok url ∧
      r = c.requestOf env t ctx draws method := by
  rw [resolve_fst] at h
  split at h
  · cases h
  · next method hmethod =>
    split at h
    · cases h
    · next url hurl =>
      cases h
      refine ⟨method, url, hmethod, ?_, rfl⟩
      rw [url_requestOf, hurl]

/-- The URL of a request is the one that its template leads to, and it is one. -/
theorem url_of_resolve {c : Config} {env : Environment} {t : RequestTemplate} {ctx : Context}
    {draws : Draws} {r : Request} {log : List Log.Event}
    (h : (c.resolve env t ctx draws).1 = .ok (r, log)) :
    r.url = c.absoluteUrl env (t.urlText ctx draws) ∧ ∃ v, Url.parse r.url = .ok v := by
  obtain ⟨method, v, -, hv, rfl⟩ := of_resolve h
  exact ⟨url_requestOf .., v, hv⟩

/-- A template for the local host is resolved under every config. -/
theorem resolve_of_loopback (c : Config) (env : Environment) {t : RequestTemplate}
    (hmethod : t.method = "GET") (hurl : t.url = "http://[::1]/") (ctx : Context) (draws : Draws) :
    (c.resolve env t ctx draws).1 =
      .ok (c.requestOf env t ctx draws .get, malformedLines (t.lineTexts ctx draws)) := by
  have htext : t.urlText ctx draws = "http://[::1]/" := by
    rw [RequestTemplate.urlText, hurl]
    rfl
  have hwhole : c.absoluteUrl env "http://[::1]/" = "http://[::1]/" := by
    rw [absoluteUrl, joinUrl, if_pos (.inl rfl)]
  have hparse : ∃ u, Url.parse "http://[::1]/" = .ok u := ⟨_, rfl⟩
  obtain ⟨u, hu⟩ := hparse
  have hget : Method.ofText? "GET" = some .get := rfl
  rw [resolve_fst, hmethod, hget, htext, hwhole, hu]

/-- The same texts under the same values of a config make the same request, or fail
alike. -/
theorem resolve_congr {c c' : Config} {env env' : Environment} {t : RequestTemplate}
    {ctx : Context} {draws draws' : Draws}
    (hurl : t.urlText ctx draws = t.urlText ctx draws')
    (hlines : t.lineTexts ctx draws = t.lineTexts ctx draws')
    (hbody : t.bodyText ctx draws = t.bodyText ctx draws')
    (hbase : c.base env = c'.base env')
    (hheaders : c.sharedHeaders env t = c'.sharedHeaders env' t)
    (hcredentials : t.noAuth = false → c.credentials env = c'.credentials env') :
    (c.resolve env t ctx draws).1 = (c'.resolve env' t ctx draws').1 := by
  have hrequest : ∀ method, c.requestOf env t ctx draws method =
      c'.requestOf env' t ctx draws' method := by
    intro method
    simp only [requestOf, absoluteUrl, hbase, hurl, hheaders, hlines, hbody]
    cases hauth : t.noAuth with
    | true => rfl
    | false => rw [hcredentials hauth]
  rw [resolve_fst, resolve_fst, absoluteUrl, absoluteUrl, hbase, hurl, hlines]
  simp only [hrequest]

end Config

/-! ## templates without dynamic tokens -/

/-- Without dynamic tokens substituting draws nothing and puts in the names alone. -/
theorem substitute_static {text : String}
    (h : ∀ token i, ¬ DynamicToken.StandsAt token text.toList i) (enc : Encoding) (ctx : Context)
    (draws : Draws) : substitute enc ctx text draws =
      (String.ofList (Placeholder.expandNames enc ctx text.toList), draws) := by
  rw [substitute_eq, Placeholder.expandDynamic_of_plain h]

/-- Without dynamic tokens substituting in several texts draws nothing either. -/
theorem substituteAll_static {texts : List String}
    (h : ∀ text ∈ texts, ∀ token i, ¬ DynamicToken.StandsAt token text.toList i) (ctx : Context)
    (draws : Draws) : substituteAll ctx texts draws =
      (texts.map fun text => String.ofList (Placeholder.expandNames .plain ctx text.toList),
        draws) := by
  induction texts with
  | nil => rfl
  | cons text texts ih =>
    rw [List.forall_mem_cons] at h
    simp only [substituteAll, Drawing.bind_apply, Drawing.pure_apply, substitute_static h.1,
      ih h.2, List.map_cons]

namespace RequestTemplate

/-- No dynamic token stands in any text of a template. -/
structure Static (t : RequestTemplate) : Prop where
  url : ∀ token i, ¬ DynamicToken.StandsAt token t.url.toList i
  headers : ∀ text ∈ t.headers, ∀ token i, ¬ DynamicToken.StandsAt token text.toList i
  body : ∀ token i, ¬ DynamicToken.StandsAt token t.body.toList i

/-- A request with no more than a URL has no dynamic token if no dollar stands in the URL.
-/
theorem static_bare {url : String} (h : '$' ∉ url.toList) :
    (RequestTemplate.bare "GET" url).Static where
  url := DynamicToken.not_standsAt_of_not_mem h
  headers text hmem := by cases hmem
  body := DynamicToken.not_standsAt_of_not_mem List.not_mem_nil

variable {t : RequestTemplate} (h : t.Static) (ctx : Context) (draws draws' : Draws)
include h

/-- The URL of a request without dynamic tokens does not depend on what is drawn. -/
theorem Static.urlText_eq : t.urlText ctx draws = t.urlText ctx draws' := by
  rw [urlText, urlText, substitute_static h.url, substitute_static h.url]

/-- The lines of a request without dynamic tokens do not depend on what is drawn. -/
theorem Static.lineTexts_eq : t.lineTexts ctx draws = t.lineTexts ctx draws' := by
  rw [lineTexts, lineTexts, substituteAll_static h.headers, substituteAll_static h.headers]

/-- The body of a request without dynamic tokens does not depend on what is drawn. -/
theorem Static.bodyText_eq : t.bodyText ctx draws = t.bodyText ctx draws' := by
  rw [bodyText, bodyText, substitute_static h.body, substitute_static h.body]

end RequestTemplate

end HttpChain
