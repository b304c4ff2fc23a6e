import HttpChain.Proofs.Request.Resolution
import HttpChain.Proofs.Url.Authority
import HttpChain.Proofs.Variable.Front

/-!
# HttpChain.Proofs.Request.Destination

Where a request goes.  A template whose URL starts with a slash is put behind the
base with one slash between them, whatever the variables hold: a text that starts
with a slash still does with variables put in.  A base that is an HTTP URL by
itself thereby settles the scheme, the host and the port of every request
(`resolve_stays_at_base`).
-/

namespace HttpChain

open Placeholder

/-- A text without the slash at its end, if there is one. -/
def withoutLastSlash (text : String) : String :=
  if text.toList.getLast? = some '/' then String.ofList text.toList.dropLast else text

theorem withoutLastSlash_append (front : List Char) :
    withoutLastSlash (String.ofList (front ++ ['/'])) = String.ofList front := by
  simp [withoutLastSlash]

theorem length_withoutLastSlash_le (text : String) :
    (withoutLastSlash text).length ≤ text.length := by
  rw [withoutLastSlash]
  split
  · rw [String.length_ofList, List.length_dropLast, String.length_toList]
    omega
  · exact Nat.le_refl _

theorem length_le_withoutLastSlash (text : String) :
    text.length ≤ (withoutLastSlash text).length + 1 := by
  rw [withoutLastSlash]
  split
  · rw [String.length_ofList, List.length_dropLast, String.length_toList]
    omega
  · omega

/-- A URL goes on behind a base with one slash. -/
theorem Config.joinUrl_slash {base : String} (h : base ≠ "") (path : String) :
    Config.joinUrl base ("/" ++ path) = withoutLastSlash base ++ "/" ++ path := by
  have hurl : ("/" ++ path).toList = '/' :: path.toList := String.toList_append
  have hhttp : Text.after? "http".toList ('/' :: path.toList) = none := rfl
  simp only [joinUrl, hurl, hhttp, Option.isSome_none, Bool.false_eq_true, h, or_self, if_false]
  rw [withoutLastSlash]
  split
  · next hlast =>
    obtain ⟨front, hfront⟩ := List.getLast?_eq_some_iff.1 hlast
    apply String.toList_inj.1
    simp [hfront]
  · rw [String.append_assoc]

/-- A slash at the front stays there. -/
theorem RequestTemplate.exists_urlText {t : RequestTemplate} (h : t.url.toList.head? = some '/')
    (ctx : Context) (draws : Draws) : ∃ path, t.urlText ctx draws = "/" ++ path := by
  obtain ⟨rest, hrest⟩ := List.head?_eq_some_iff.1 h
  have hslash : '/' ≠ '\x7b' := by decide
  have hfirst := expandDynamic_cons (dynamic_cons hslash rest) draws
  refine ⟨String.ofList (expandNames .query ctx (expandDynamic rest draws).1), ?_⟩
  rw [urlText, substitute_eq, hrest, hfirst, expandNames_cons _ _ (grammar_cons hslash _)]
  exact String.toList_inj.1 (by simp)

/-- A template whose URL starts with a slash leads to a place behind the base. -/
theorem Config.exists_absoluteUrl {c : Config} {env : Environment} {t : RequestTemplate}
    (hbase : c.base env ≠ "") (h : t.url.toList.head? = some '/') (ctx : Context) (draws : Draws) :
    ∃ path, t.urlText ctx draws = "/" ++ path ∧
      c.absoluteUrl env (t.urlText ctx draws) = withoutLastSlash (c.base env) ++ "/" ++ path := by
  obtain ⟨path, hpath⟩ := t.exists_urlText h ctx draws
  exact ⟨path, hpath, by rw [hpath, absoluteUrl, joinUrl_slash hbase]⟩

namespace Url

/-- A base that is a URL under a special scheme anchors what goes on behind it. -/
theorem exists_anchors_of_base {base : String} {defaultPort : Nat} {u : Url}
    (hparse : parse base = .ok u) (hkind : SchemeKind.of u.scheme = .special defaultPort) :
    ∃ authority, Anchors (withoutLastSlash base).toList u.scheme authority := by
  by_cases hlast : base.toList.getLast? = some '/'
  · obtain ⟨front, hfront⟩ := List.getLast?_eq_some_iff.1 hlast
    obtain rfl : base = String.ofList (front ++ ['/']) := String.toList_inj.1 (by simp [hfront])
    rw [withoutLastSlash_append, String.toList_ofList]
    exact exists_anchors_of_slash hparse hkind
  · rw [withoutLastSlash, if_neg hlast]
    rw [← String.ofList_toList (s := base)] at hparse
    exact exists_anchors hparse hkind

theorem exists_special_of_http {scheme : List Char}
    (h : scheme = "http".toList ∨ scheme = "https".toList) :
    ∃ defaultPort, SchemeKind.of scheme = .special defaultPort := by
  rcases h with rfl | rfl
  · exact ⟨80, rfl⟩
  · exact ⟨443, rfl⟩

end Url

/-- Variables do not redirect a request.  Where the base is an HTTP URL by itself and
the URL of a template starts with a slash, the URL of a request is the base without
a slash at its end, one slash, and what the variables make of the rest of the
template; and whatever they hold, the request goes to the same scheme, host and
port. -/
theorem resolve_stays_at_base (c : Config) (env : Environment) (t : RequestTemplate) {u : Url}
    (hbase : Url.parse (c.base env) = .ok u)
    (hscheme : u.scheme = "http".toList ∨ u.scheme = "https".toList)
    (hurl : t.url.toList.head? = some '/') :
    (∀ ctx draws, ∃ path,
      (substitute .query ctx t.url draws).1 = "/" ++ path ∧
      c.absoluteUrl env (substitute .query ctx t.url draws).1 =
        withoutLastSlash (c.base env) ++ "/" ++ path ∧
      ∀ r log, (c.resolve env t ctx draws).1 = .ok (r, log) →
        r.url = withoutLastSlash (c.base env) ++ "/" ++ path) ∧
    ∀ ctx ctx' draws draws' r r' log log',
      (c.resolve env t ctx draws).1 = .ok (r, log) →
      (c.resolve env t ctx' draws').1 = .ok (r', log') →
      ∃ v v', Url.parse r.url = .ok v ∧ Url.parse r'.url = .ok v' ∧
        v.scheme = v'.scheme ∧ v.host = v'.host ∧ v.port = v'.port := by
  have hne : c.base env ≠ "" := by
    intro hempty
    rw [hempty] at hbase
    cases hbase
  refine ⟨fun ctx draws => ?_, fun ctx ctx' draws draws' r r' log log' h h' => ?_⟩
  · obtain ⟨path, hpath, habsolute⟩ := Config.exists_absoluteUrl hne hurl ctx draws
    exact ⟨path, hpath, habsolute, fun r log h => (Config.url_of_resolve h).1.trans habsolute⟩
  · obtain ⟨defaultPort, hkind⟩ := Url.exists_special_of_http hscheme
    obtain ⟨authority, hanchors⟩ := Url.exists_anchors_of_base hbase hkind
    -- each of the two URLs goes on from the same base
    have hbehind : ∀ {ctx draws r log}, (c.resolve env t ctx draws).1 = .ok (r, log) →
        ∃ rest, r.url = String.ofList ((withoutLastSlash (c.base env)).toList ++ '/' :: rest) := by
      intro ctx draws r log h
      obtain ⟨path, -, habsolute⟩ := Config.exists_absoluteUrl hne hurl ctx draws
      refine ⟨path.toList, (Config.url_of_resolve h).1.trans (habsolute.trans ?_)⟩
      exact String.toList_inj.1 (by simp)
    obtain ⟨-, v, hv⟩ := Config.url_of_resolve h
    obtain ⟨-, v', hv'⟩ := Config.url_of_resolve h'
    refine ⟨v, v', hv, hv', ?_⟩
    obtain ⟨rest, hrest⟩ := hbehind h
    obtain ⟨rest', hrest'⟩ := hbehind h'
    rw [hrest] at hv
    rw [hrest'] at hv'
    exact hanchors.same_site hkind hv hv'

/-- A config whose base ends in a slash. -/
def loopback : Config := { Config.empty with baseUrl := some "http://[::1]:8080/" }

/-- A value that looks like an authority stays in the path. -/
theorem resolve_stays_at_base_loopback :
    ∃ r r' v v',
      (loopback.resolve (fun _ => none) (.bare "GET" "/\x7b\x7bpath\x7d\x7d")
        (Dict.empty.insert "path" (.string "//me@host/?#")) ⟨id, id, 0⟩).1 = .ok (r, []) ∧
      (loopback.resolve (fun _ => none) (.bare "GET" "/\x7b\x7bpath\x7d\x7d") {}
        ⟨id, id, 0⟩).1 = .ok (r', []) ∧
      r.url = "http://[::1]:8080/%2F%2Fme%40host%2F%3F%23" ∧
      Url.parse r.url = .ok v ∧ Url.parse r'.url = .ok v' ∧
      v.scheme = v'.scheme ∧ v.host = v'.host ∧ v.port = v'.port := by
  have hstays := resolve_stays_at_base loopback (fun _ => none)
    (.bare "GET" "/\x7b\x7bpath\x7d\x7d") rfl (.inl rfl) rfl
  obtain ⟨v, v', hv⟩ := hstays.2 (Dict.empty.insert "path" (.string "//me@host/?#")) {}
    ⟨id, id, 0⟩ ⟨id, id, 0⟩ _ _ _ _ rfl rfl
  exact ⟨_, _, v, v', rfl, rfl, rfl, hv⟩

end HttpChain
