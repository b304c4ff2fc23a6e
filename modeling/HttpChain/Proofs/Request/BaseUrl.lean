import HttpChain.Proofs.Request.Destination

/-!
# HttpChain.Proofs.Request.BaseUrl

Texts that stand alone and texts that go on behind the base.  What tells them apart is
whether they start with `http`, in small letters and whatever follows
(`Config.absoluteUrl_of_startsHttp`); everything else goes on behind the base, if there is
one, with one slash between them (`Config.absoluteUrl_of_not_startsHttp`).
`absoluteUrl_exact` puts this together.  The scheme of HTTP is another test: the two agree on
some texts and not on others (`not_absoluteUrl_scheme`).
-/

namespace HttpChain

/-! ## the front of a text -/

/-- A text starts with `http`. -/
def StartsHttp (text : String) : Prop := "http".toList <+: text.toList

/-- A text starts with the scheme of HTTP, with or without encryption, in any letter case. -/
def HasHttpScheme (text : String) : Prop :=
  "http:".toList <+: Text.foldCase text.toList ∨ "https:".toList <+: Text.foldCase text.toList

instance : DecidablePred StartsHttp := fun text =>
  inferInstanceAs (Decidable ("http".toList <+: text.toList))

instance : DecidablePred HasHttpScheme := fun text =>
  inferInstanceAs (Decidable ("http:".toList <+: Text.foldCase text.toList ∨
    "https:".toList <+: Text.foldCase text.toList))

/-- What starts a text and does not hold a character, starts what stands ahead of it. -/
theorem prefix_of_prefix_append_cons {w front rest : List Char} {c : Char} (hc : c ∉ w)
    (h : w <+: front ++ c :: rest) : w <+: front := by
  rcases List.prefix_or_prefix_of_prefix h (List.prefix_append front (c :: rest)) with h' | h'
  · exact h'
  · obtain ⟨more, rfl⟩ := h'
    cases more with
    | nil => simp
    | cons d ds =>
      rw [List.prefix_append_right_inj, List.cons_prefix_cons] at h
      simp [h.1] at hc

/-- As `http` holds no slash, what stands behind one has no part in it. -/
theorem startsHttp_append_slash (front rest : String) :
    StartsHttp (front ++ "/" ++ rest) ↔ StartsHttp front := by
  simp only [StartsHttp, String.toList_append, List.append_assoc]
  exact ⟨prefix_of_prefix_append_cons (by decide), fun h => h.trans (List.prefix_append _ _)⟩

/-! ## one slash -/

/-- A text without the slash at its front, if there is one. -/
def withoutFirstSlash (text : String) : String :=
  if text.toList.head? = some '/' then String.ofList text.toList.tail else text

theorem eq_withoutFirstSlash_of_head? {text : String} (h : text.toList.head? = some '/') :
    text = "/" ++ withoutFirstSlash text := by
  obtain ⟨rest, hrest⟩ := List.head?_eq_some_iff.1 h
  rw [withoutFirstSlash, if_pos h]
  exact String.toList_inj.1 (by simp [hrest])

theorem withoutFirstSlash_of_head? {text : String} (h : text.toList.head? ≠ some '/') :
    withoutFirstSlash text = text := if_neg h

theorem eq_or_eq_withoutLastSlash (text : String) :
    text = withoutLastSlash text ∨ text = withoutLastSlash text ++ "/" := by
  rw [withoutLastSlash]
  split
  · next h =>
    obtain ⟨front, hfront⟩ := List.getLast?_eq_some_iff.1 h
    exact .inr (String.toList_inj.1 (by simp [hfront]))
  · exact .inl rfl

theorem startsHttp_withoutLastSlash (text : String) :
    StartsHttp (withoutLastSlash text) ↔ StartsHttp text := by
  have happend := startsHttp_append_slash (withoutLastSlash text) ""
  rw [String.append_empty] at happend
  rcases eq_or_eq_withoutLastSlash text with h | h
  · rw [← h]
  · rw [← happend, ← h]

/-- Two texts with one slash between them are the second one only if the first one is empty
and the slash is that of the second one. -/
theorem append_slash_eq_self_iff {front text : String} :
    front ++ "/" ++ withoutFirstSlash text = text ↔
      front = "" ∧ text.toList.head? = some '/' := by
  by_cases hslash : text.toList.head? = some '/'
  · have htext := eq_withoutFirstSlash_of_head? hslash
    simp only [hslash, and_true]
    refine ⟨fun h => ?_, fun h => by rw [h, String.empty_append, ← htext]⟩
    have hlength := congrArg String.length (h.trans htext)
    simp only [String.length_append] at hlength
    exact String.length_eq_zero_iff.1 (by omega)
  · simp only [hslash, and_false, iff_false]
    intro h
    have hlength := congrArg String.length h
    rw [withoutFirstSlash_of_head? hslash, String.length_append, String.length_append] at hlength
    have : "/".length = 1 := rfl
    omega

/-! ## joining -/

namespace Config

variable {c : Config} {env : Environment} {url : String}

theorem after?_http_isSome : (Text.after? "http".toList url.toList).isSome = true ↔
    StartsHttp url := by
  rw [Option.isSome_iff_exists]
  exact exists_congr fun rest => Text.after?_eq_some_iff.trans eq_comm

/-- A text that starts with `http` stands alone. -/
theorem absoluteUrl_of_startsHttp (h : StartsHttp url) : c.absoluteUrl env url = url :=
  if_pos (.inl (after?_http_isSome.2 h))

/-- Any other text goes on behind the base, with one slash between them. -/
theorem absoluteUrl_of_not_startsHttp (hbase : c.base env ≠ "") (h : ¬ StartsHttp url) :
    c.absoluteUrl env url = withoutLastSlash (c.base env) ++ "/" ++ withoutFirstSlash url := by
  by_cases hslash : url.toList.head? = some '/'
  · rw [absoluteUrl, eq_withoutFirstSlash_of_head? hslash, joinUrl_slash hbase,
      ← eq_withoutFirstSlash_of_head? hslash]
  · have hslash' : ∀ path, url.toList ≠ '/' :: path := by
      intro path hpath
      exact hslash (by rw [hpath]; rfl)
    rw [absoluteUrl, joinUrl, if_neg (not_or.2 ⟨mt after?_http_isSome.1 h, hbase⟩),
      withoutFirstSlash_of_head? hslash]
    split
    · next path hpath => exact absurd hpath (hslash' path)
    · rw [withoutLastSlash]
      split
      · next hlast =>
        obtain ⟨front, hfront⟩ := List.getLast?_eq_some_iff.1 hlast
        exact String.toList_inj.1 (by simp [hfront])
      · next hlast => exact if_neg hlast

/-- Without a base every text stands alone. -/
theorem absoluteUrl_of_base_eq_empty (h : c.base env = "") : c.absoluteUrl env url = url :=
  if_pos (.inr h)

/-- A text stands alone if it starts with `http` or there is no base.  Behind a base that is
one slash, a text that starts with a slash looks the same as alone. -/
theorem absoluteUrl_eq_self_iff : c.absoluteUrl env url = url ↔
    StartsHttp url ∨ c.base env = "" ∨ c.base env = "/" ∧ url.toList.head? = some '/' := by
  by_cases hhttp : StartsHttp url
  · simp only [absoluteUrl_of_startsHttp hhttp, hhttp, true_or]
  by_cases hbase : c.base env = ""
  · simp only [absoluteUrl_of_base_eq_empty hbase, hbase, true_or, or_true]
  have hempty : withoutLastSlash (c.base env) = "" ↔ c.base env = "/" := by
    refine ⟨fun h => ?_, fun h => by rw [h]; rfl⟩
    rcases eq_or_eq_withoutLastSlash (c.base env) with hsame | hslash
    · exact absurd (hsame.trans h) hbase
    · rw [hslash, h, String.empty_append]
  rw [absoluteUrl_of_not_startsHttp hbase hhttp, append_slash_eq_self_iff, hempty]
  simp only [hhttp, hbase, false_or]

/-- Joining a second time changes nothing where the first time has made a text that starts
with `http`, has put one slash in front of it, or has had no base to join to. -/
theorem absoluteUrl_absoluteUrl_iff :
    c.absoluteUrl env (c.absoluteUrl env url) = c.absoluteUrl env url ↔
      StartsHttp url ∨ StartsHttp (c.base env) ∨ c.base env = "" ∨ c.base env = "/" := by
  by_cases hhttp : StartsHttp url
  · simp only [absoluteUrl_of_startsHttp hhttp, hhttp, true_or]
  by_cases hbase : c.base env = ""
  · simp only [absoluteUrl_of_base_eq_empty hbase, hbase, true_or, or_true]
  have hstarts : StartsHttp (c.absoluteUrl env url) ↔ StartsHttp (c.base env) := by
    rw [absoluteUrl_of_not_startsHttp hbase hhttp, startsHttp_append_slash,
      startsHttp_withoutLastSlash]
  have hslash : c.base env = "/" → (c.absoluteUrl env url).toList.head? = some '/' := by
    intro h
    rw [absoluteUrl_of_not_startsHttp hbase hhttp, h]
    simp [withoutLastSlash]
  rw [absoluteUrl_eq_self_iff, hstarts, and_iff_left_of_imp hslash]
  simp only [hhttp, false_or]

end Config

/-- What stands alone and what goes on behind the base.  A text is left alone if it starts
with `http` or there is no base (or if it starts with a slash and the base is no more than
that), and any other text goes on behind the base; there is one slash at the joint if the
base ends and the text starts with at most one.  So the scheme of HTTP decides at a text
exactly if the text has that scheme whenever it starts with `http`, and the other way round;
and joining twice changes nothing exactly if the text or the base starts with `http`, or the
base is one slash or none. -/
theorem absoluteUrl_exact (c : Config) (env : Environment) (url : String) :
    (c.absoluteUrl env url = url ↔
      StartsHttp url ∨ c.base env = "" ∨ c.base env = "/" ∧ url.toList.head? = some '/') ∧
    (c.base env ≠ "" → ¬ StartsHttp url →
      c.absoluteUrl env url = withoutLastSlash (c.base env) ++ "/" ++ withoutFirstSlash url) ∧
    (∀ front path, c.base env ≠ "" → ¬ StartsHttp url → front.toList.getLast? ≠ some '/' →
      path.toList.head? ≠ some '/' → (c.base env = front ∨ c.base env = front ++ "/") →
      (url = path ∨ url = "/" ++ path) → c.absoluteUrl env url = front ++ "/" ++ path) ∧
    (c.base env ≠ "" → c.base env ≠ "/" → ((c.absoluteUrl env url = url ↔ HasHttpScheme url) ↔
      (StartsHttp url ↔ HasHttpScheme url))) ∧
    (c.absoluteUrl env (c.absoluteUrl env url) = c.absoluteUrl env url ↔
      StartsHttp url ∨ StartsHttp (c.base env) ∨ c.base env = "" ∨ c.base env = "/") := by
  refine ⟨Config.absoluteUrl_eq_self_iff, Config.absoluteUrl_of_not_startsHttp,
    fun front path hbase hhttp hfront hpath hends hstarts => ?joint, fun hbase hslash => ?scheme,
    Config.absoluteUrl_absoluteUrl_iff⟩
  case joint =>
    have hfront' : withoutLastSlash (c.base env) = front := by
      rcases hends with h | h
      · rw [h, withoutLastSlash, if_neg hfront]
      · rw [h]
        exact String.toList_inj.1 (by simp [withoutLastSlash])
    have hpath' : withoutFirstSlash url = path := by
      rcases hstarts with rfl | rfl
      · exact withoutFirstSlash_of_head? hpath
      · exact String.toList_inj.1 (by simp [withoutFirstSlash])
    rw [Config.absoluteUrl_of_not_startsHttp hbase hhttp, hfront', hpath']
  case scheme =>
    rw [Config.absoluteUrl_eq_self_iff]
    simp only [hbase, hslash, false_and, or_false]

/-- A config with a base that has the scheme of HTTP, in capital letters or small ones. -/
def service (scheme : String) : Config :=
  { Config.empty with baseUrl := some (scheme ++ "://api.test") }

/-- A path below the base is joined to it with one slash, and once is enough. -/
theorem absoluteUrl_exact_data :
    (service "http").base (fun _ => none) ≠ "" ∧
    (service "http").absoluteUrl (fun _ => none) "/data" = "http://api.test/data" ∧
    (service "http").absoluteUrl (fun _ => none)
      ((service "http").absoluteUrl (fun _ => none) "/data") = "http://api.test/data" := by
  have hbase : (service "http").base (fun _ => none) ≠ "" := by decide
  obtain ⟨-, -, hjoined, -, htwice⟩ :=
    absoluteUrl_exact (service "http") (fun _ => none) "/data"
  have honce := hjoined "http://api.test" "data" hbase (by decide) (by decide) (by decide)
    (.inl (by decide)) (.inr (by decide))
  exact ⟨hbase, honce, (htwice.2 (.inr (.inl (by decide)))).trans honce⟩

/-- The scheme of HTTP is not what tells texts apart: a path can start with `http`, and the
scheme can be written in capital letters, in a text or in the base. -/
theorem not_absoluteUrl_scheme :
    ¬ (∀ (c : Config) (env : Environment) (url : String), c.base env ≠ "" →
      c.absoluteUrl env url = url → HasHttpScheme url) ∧
    ¬ (∀ (c : Config) (env : Environment) (url : String), c.base env ≠ "" →
      HasHttpScheme url → c.absoluteUrl env url = url) ∧
    ¬ (∀ (c : Config) (env : Environment) (url : String), HasHttpScheme (c.base env) →
      c.absoluteUrl env (c.absoluteUrl env url) = c.absoluteUrl env url) := by
  refine ⟨fun h => ?_, fun h => ?_, fun h => ?_⟩
  · exact absurd (h (service "http") (fun _ => none) "httpbin/get" (by decide) (by decide))
      (by decide)
  · exact absurd (h (service "http") (fun _ => none) "HTTP://other.test/x" (by decide) (by decide))
      (by decide)
  · exact absurd (h (service "HTTP") (fun _ => none) "/data" (by decide)) (by decide)

end HttpChain
