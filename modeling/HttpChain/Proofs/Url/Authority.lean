import HttpChain.Url.Parser
import Mathlib.Data.List.DropRight

/-!
# HttpChain.Proofs.Url.Authority

Where the authority of a URL ends.  Under a special scheme it ends at the first
slash behind the slashes that follow the scheme, so whatever is written behind a
slash there is path, query or fragment.  A text that is a URL by itself anchors
every URL that goes on from it with a slash: scheme, host and port of these are
settled by the text alone (`Anchors.site_of_parse`).
-/

namespace HttpChain.Url

/-! ## a slash in a text -/

section Slash

variable {α : Type} {p q : α → Bool} {x : α}

theorem dropWhile_append_cons (h : p x = false) (xs ys : List α) :
    (xs ++ x :: ys).dropWhile p = xs.dropWhile p ++ x :: ys := by
  rw [List.dropWhile_append]
  split
  · next hempty => rw [List.isEmpty_iff.1 hempty, List.dropWhile_cons_of_neg (by simp [h])]; rfl
  · rfl

theorem takeWhile_append_cons (h : p x = false) (xs ys : List α) :
    (xs ++ x :: ys).takeWhile p = xs.takeWhile p := by
  induction xs with
  | nil => simp [h]
  | cons y xs ih => rw [List.cons_append, List.takeWhile_cons, List.takeWhile_cons, ih]

theorem rdropWhile_append_cons (h : p x = false) (xs ys : List α) :
    (xs ++ x :: ys).rdropWhile p = xs ++ x :: ys.rdropWhile p := by
  have hreverse : (xs ++ x :: ys).reverse = ys.reverse ++ x :: xs.reverse := by simp
  rw [List.rdropWhile, hreverse, dropWhile_append_cons h, List.rdropWhile]
  simp

/-- Characters that are passed over, cut out of what is taken or the other way
round. -/
theorem takeWhile_dropWhile_takeWhile {r : α → Bool} (hq : ∀ x, q x = true → p x = true)
    (hr : ∀ x, r x = true → p x = true) (xs : List α) :
    ((xs.takeWhile p).dropWhile q).takeWhile r = (xs.dropWhile q).takeWhile r := by
  induction xs with
  | nil => rfl
  | cons x xs ih =>
    by_cases hx : q x = true
    · rw [List.takeWhile_cons_of_pos (hq x hx), List.dropWhile_cons_of_pos hx, ih,
        List.dropWhile_cons_of_pos hx]
    · rw [List.dropWhile_cons_of_neg hx]
      by_cases hxp : p x = true
      · rw [List.takeWhile_cons_of_pos hxp, List.dropWhile_cons_of_neg hx,
          ← List.takeWhile_cons_of_pos hxp, List.takeWhile_takeWhile]
        refine congrArg (List.takeWhile · (x :: xs)) (funext fun y => ?_)
        rw [Bool.eq_iff_iff, decide_eq_true_eq]
        exact ⟨fun h => h.1, fun h => ⟨h, hr y h⟩⟩
      · rw [List.takeWhile_cons_of_neg hxp, List.takeWhile_cons_of_neg fun h => hxp (hr x h)]
        rfl

end Slash

/-! ## what counts of a text -/

/-- Characters that do not count at the ends of a text. -/
def isMargin (c : Char) : Bool := c.toNat ≤ 0x20

/-- Characters that count inside a text. -/
def counts (c : Char) : Bool := c ≠ '\t' && c ≠ '\n' && c ≠ '\r'

theorem cleaned_eq (cs : List Char) :
    cleaned cs = ((cs.dropWhile isMargin).rdropWhile isMargin).filter counts := rfl

/-- What counts of a text that something follows. -/
def opening (cs : List Char) : List Char := (cs.dropWhile isMargin).filter counts

theorem cleaned_append_slash (front rest : List Char) :
    cleaned (front ++ '/' :: rest) =
      opening front ++ '/' :: (rest.rdropWhile isMargin).filter counts := by
  have hmargin : isMargin '/' = false := by decide
  rw [cleaned_eq, dropWhile_append_cons hmargin, rdropWhile_append_cons hmargin,
    List.filter_append, opening]
  rfl

/-- Alone, a text may lose some of its end as well. -/
theorem opening_eq_cleaned_append (cs : List Char) :
    ∃ lost, opening cs = cleaned cs ++ lost := by
  obtain ⟨lost, hlost⟩ := List.rdropWhile_prefix isMargin (cs.dropWhile isMargin)
  refine ⟨lost.filter counts, ?_⟩
  rw [opening, ← hlost, List.filter_append, cleaned_eq]

/-! ## the scheme -/

/-- Characters that a scheme may hold behind its first letter. -/
def isSchemeChar (c : Char) : Bool := c.isAlphanum || c == '+' || c == '-' || c == '.'

theorem scheme?_cons (c : Char) (cs : List Char) :
    scheme? (c :: cs) =
      if c.isAlpha then
        match cs.dropWhile isSchemeChar with
        | ':' :: rest => some ((c :: cs.takeWhile isSchemeChar).map Char.toLower, rest)
        | _ => none
      else none := rfl

/-- A text has a scheme if it begins with a letter and other characters of a scheme
up to a colon. -/
theorem scheme?_eq_some_iff {cs scheme rest : List Char} :
    scheme? cs = some (scheme, rest) ↔
      ∃ c name, c.isAlpha = true ∧ (∀ d ∈ name, isSchemeChar d = true) ∧
        cs = c :: name ++ ':' :: rest ∧ scheme = (c :: name).map Char.toLower := by
  constructor
  · intro h
    cases cs with
    | nil => cases h
    | cons c cs =>
      rw [scheme?_cons] at h
      split at h
      · next hc =>
        split at h
        · next behind hcolon =>
          cases h
          refine ⟨c, cs.takeWhile isSchemeChar, hc, fun d hd => ?_, ?_, rfl⟩
          · exact List.all_eq_true.1 List.all_takeWhile d hd
          · rw [List.cons_append, ← hcolon, List.takeWhile_append_dropWhile]
        · cases h
      · cases h
  · rintro ⟨c, name, hc, hname, rfl, rfl⟩
    have hcolon : isSchemeChar ':' = false := by decide
    rw [List.cons_append, scheme?_cons, if_pos hc, dropWhile_append_cons hcolon,
      takeWhile_append_cons hcolon, List.dropWhile_eq_nil_iff.2 hname,
      List.takeWhile_eq_self_iff.2 hname]
    rfl

/-- A scheme is found whatever the text goes on with. -/
theorem scheme?_append {cs scheme rest : List Char} (h : scheme? cs = some (scheme, rest))
    (more : List Char) : scheme? (cs ++ more) = some (scheme, rest ++ more) := by
  obtain ⟨c, name, hc, hname, rfl, rfl⟩ := scheme?_eq_some_iff.1 h
  exact scheme?_eq_some_iff.2 ⟨c, name, hc, hname, by simp, rfl⟩

/-- No scheme reaches over a slash. -/
theorem scheme?_of_append_slash {front rest scheme behind : List Char}
    (h : scheme? (front ++ '/' :: rest) = some (scheme, behind)) :
    ∃ own, scheme? front = some (scheme, own) ∧ behind = own ++ '/' :: rest := by
  obtain ⟨c, name, hc, hname, htext, rfl⟩ := scheme?_eq_some_iff.1 h
  have hslash : '/' ∉ c :: name ++ [':'] := by
    simp only [List.mem_append, List.mem_cons, List.not_mem_nil, or_false, not_or]
    refine ⟨⟨?_, fun hmem => ?_⟩, by decide⟩
    · rintro rfl
      exact absurd hc (by decide)
    · exact absurd (hname _ hmem) (by decide)
  rw [show c :: name ++ ':' :: behind = (c :: name ++ [':']) ++ behind by simp] at htext
  rcases List.append_eq_append_iff.1 htext with ⟨own, hscheme, hrest⟩ | ⟨own, hfront, hbehind⟩
  · -- the text ends inside the scheme or with its colon
    cases own with
    | nil =>
      rw [List.append_nil] at hscheme
      refine ⟨[], scheme?_eq_some_iff.2 ⟨c, name, hc, hname, ?_, rfl⟩, hrest.symm⟩
      simp [← hscheme]
    | cons d own =>
      cases hrest
      exact absurd (hscheme ▸ List.mem_append_right _ List.mem_cons_self) hslash
  · refine ⟨own, scheme?_eq_some_iff.2 ⟨c, name, hc, hname, ?_, rfl⟩, hbehind⟩
    simp [hfront]

/-! ## the authority -/

/-- Characters that may stand ahead of the authority under a special scheme. -/
def isSlash (c : Char) : Bool := c == '/' || c == '\\'

/-- The authority of a text behind a special scheme. -/
def authorityOf (cs : List Char) : List Char :=
  (cs.dropWhile isSlash).takeWhile fun c => !endsAuthority true c

/-- The host and the port of an authority under a special scheme. -/
def site? (defaultPort : Nat) (authority : List Char) : Except Fault (Host × Option Nat) := do
  let (_, _, rest) ← userInfo? authority
  hostAndPort? (.special defaultPort) rest

theorem site?_nil (defaultPort : Nat) : site? defaultPort [] = .error .emptyHost := rfl

/-- What stands ahead of the first occurrence of a character, or all of a text. -/
theorem getD_splitOnce (sep : Char) (cs : List Char) :
    ((Text.splitOnce sep cs).map Prod.fst).getD cs = cs.takeWhile (· ≠ sep) := by
  induction cs with
  | nil => rfl
  | cons c cs ih =>
    rw [Text.splitOnce]
    by_cases h : c = sep
    · simp [h]
    · rw [if_neg h, List.takeWhile_cons_of_pos (by simpa using h), ← ih]
      cases Text.splitOnce sep cs <;> rfl

theorem splitTail_fst (cs : List Char) :
    (splitTail cs).1 = cs.takeWhile fun c => c ≠ '#' && c ≠ '?' := by
  have hfront : (splitTail cs).1 = (cs.takeWhile (· ≠ '#')).takeWhile (· ≠ '?') := by
    rw [← getD_splitOnce '?', ← getD_splitOnce '#', splitTail]
    cases Text.splitOnce '#' cs with
    | none => cases h : Text.splitOnce '?' cs <;> simp [h]
    | some parts => cases h : Text.splitOnce '?' parts.1 <;> simp [h]
  rw [hfront, List.takeWhile_takeWhile]
  simp [Bool.and_comm]

theorem takeWhile_splitTail (cs : List Char) :
    ((splitTail cs).1.dropWhile isSlash).takeWhile (fun c => !endsAuthority true c) =
      authorityOf cs := by
  rw [splitTail_fst, takeWhile_dropWhile_takeWhile, authorityOf]
  · intro c hc
    rcases Bool.or_eq_true_iff.1 hc with hc | hc <;> rw [eq_of_beq hc] <;> rfl
  · intro c hc
    simp only [endsAuthority, Bool.not_eq_true', Bool.or_eq_false_iff, beq_eq_false_iff_ne] at hc
    simp [hc.1.2, hc.1.1.2]

/-- Under a special scheme host and port are those of the authority. -/
theorem of_behindScheme {scheme cs : List Char} {defaultPort : Nat} {u : Url}
    (hkind : SchemeKind.of scheme = .special defaultPort) (h : behindScheme scheme cs = .ok u) :
    u.scheme = scheme ∧
      ∃ host, u.host = some host ∧ site? defaultPort (authorityOf cs) = .ok (host, u.port) := by
  have hslash : (fun c : Char => c == '/' || c == '\\') = isSlash := rfl
  simp only [behindScheme, hkind, SchemeKind.isSpecial, Bool.true_and, bind, Except.bind] at h
  rw [hslash, takeWhile_splitTail] at h
  cases hinfo : userInfo? (authorityOf cs) with
  | error f =>
    rw [hinfo] at h
    cases h
  | ok info =>
    rw [hinfo] at h
    dsimp only at h
    cases hsite : hostAndPort? (.special defaultPort) info.2.2 with
    | error f =>
      rw [hsite] at h
      cases h
    | ok site =>
      rw [hsite] at h
      dsimp only at h
      split at h
      · cases h
      · cases h
        refine ⟨rfl, site.1, rfl, ?_⟩
        rw [site?, hinfo]
        exact hsite

theorem of_parse {text : String} {u : Url} (h : parse text = .ok u) :
    ∃ scheme behind, scheme? (cleaned text.toList) = some (scheme, behind) ∧
      behindScheme scheme behind = .ok u := by
  rw [parse] at h
  split at h
  · cases h
  · next scheme behind hscheme => exact ⟨scheme, behind, hscheme, h⟩

/-- Whatever the kind of a scheme, it is the scheme of the URL. -/
theorem scheme_of_behindScheme {scheme cs : List Char} {u : Url}
    (h : behindScheme scheme cs = .ok u) : u.scheme = scheme := by
  cases hkind : SchemeKind.of scheme with
  | special defaultPort => exact (of_behindScheme hkind h).1
  | file =>
    simp only [behindScheme, hkind, bind, Except.bind] at h
    split at h
    · split at h
      · cases h
      · cases h
        rfl
    · cases h
      rfl
  | other =>
    simp only [behindScheme, hkind, bind, Except.bind] at h
    split at h
    · split at h
      · cases h
      · split at h
        · cases h
        · split at h
          · cases h
          · cases h
            rfl
    · cases h
      rfl
    · cases h
      rfl

/-! ## texts that settle the authority -/

/-- A text that reads as a special scheme and the authority behind it, with
something in it, before whatever a slash goes on with. -/
def Anchors (front scheme authority : List Char) : Prop :=
  ∃ behind, scheme? (opening front) = some (scheme, behind) ∧ behind.dropWhile isSlash ≠ [] ∧
    authorityOf behind = authority

theorem authorityOf_append_slash {behind : List Char} (h : behind.dropWhile isSlash ≠ [])
    (rest : List Char) : authorityOf (behind ++ '/' :: rest) = authorityOf behind := by
  have hends : (!endsAuthority true '/') = false := rfl
  rw [authorityOf, List.dropWhile_append, if_neg (by simpa using h),
    takeWhile_append_cons (p := fun c => !endsAuthority true c) hends, authorityOf]

/-- Where an authority has been found, something stands behind the slashes. -/
theorem dropWhile_ne_nil_of_site? {defaultPort : Nat} {behind : List Char}
    {site : Host × Option Nat} (h : site? defaultPort (authorityOf behind) = .ok site) :
    behind.dropWhile isSlash ≠ [] := by
  intro hnil
  rw [authorityOf, hnil, List.takeWhile_nil, site?_nil] at h
  cases h

/-- What a text settles of every URL that goes on from it with a slash. -/
theorem Anchors.site_of_parse {front scheme authority rest : List Char} {defaultPort : Nat} {v : Url}
    (hfront : Anchors front scheme authority) (hkind : SchemeKind.of scheme = .special defaultPort)
    (hparse : parse (String.ofList (front ++ '/' :: rest)) = .ok v) :
    v.scheme = scheme ∧
      ∃ host, v.host = some host ∧ site? defaultPort authority = .ok (host, v.port) := by
  obtain ⟨behind, hscheme, hsome, rfl⟩ := hfront
  rw [parse, String.toList_ofList, cleaned_append_slash, scheme?_append hscheme] at hparse
  have hv := of_behindScheme hkind hparse
  rwa [authorityOf_append_slash hsome] at hv

/-- URLs that go on from the same text with a slash lead to the same place. -/
theorem Anchors.same_site {front scheme authority rest rest' : List Char} {defaultPort : Nat}
    {v v' : Url} (hfront : Anchors front scheme authority)
    (hkind : SchemeKind.of scheme = .special defaultPort)
    (hv : parse (String.ofList (front ++ '/' :: rest)) = .ok v)
    (hv' : parse (String.ofList (front ++ '/' :: rest')) = .ok v') :
    v.scheme = v'.scheme ∧ v.host = v'.host ∧ v.port = v'.port := by
  obtain ⟨hscheme, host, hhost, hsite⟩ := hfront.site_of_parse hkind hv
  obtain ⟨hscheme', host', hhost', hsite'⟩ := hfront.site_of_parse hkind hv'
  have hsame : (host, v.port) = (host', v'.port) := Except.ok.inj (hsite.symm.trans hsite')
  rw [Prod.mk.injEq] at hsame
  exact ⟨hscheme.trans hscheme'.symm, by rw [hhost, hhost', hsame.1], hsame.2⟩

/-- A URL under a special scheme settles what goes on from it with a slash. -/
theorem exists_anchors {front : List Char} {defaultPort : Nat} {u : Url}
    (hparse : parse (String.ofList front) = .ok u)
    (hkind : SchemeKind.of u.scheme = .special defaultPort) :
    ∃ authority, Anchors front u.scheme authority := by
  obtain ⟨scheme, behind, hscheme, hu⟩ := of_parse hparse
  obtain rfl := scheme_of_behindScheme hu
  obtain ⟨-, host, -, hsite⟩ := of_behindScheme hkind hu
  rw [String.toList_ofList] at hscheme
  obtain ⟨lost, hlost⟩ := opening_eq_cleaned_append front
  refine ⟨_, behind ++ lost, hlost ▸ scheme?_append hscheme lost, ?_, rfl⟩
  rw [List.dropWhile_append, if_neg (by simpa using dropWhile_ne_nil_of_site? hsite)]
  simp [dropWhile_ne_nil_of_site? hsite]

/-- So does one that ends in that slash. -/
theorem exists_anchors_of_slash {front : List Char} {defaultPort : Nat} {u : Url}
    (hparse : parse (String.ofList (front ++ ['/'])) = .ok u)
    (hkind : SchemeKind.of u.scheme = .special defaultPort) :
    ∃ authority, Anchors front u.scheme authority := by
  obtain ⟨scheme, behind, hscheme, hu⟩ := of_parse hparse
  obtain rfl := scheme_of_behindScheme hu
  obtain ⟨-, host, -, hsite⟩ := of_behindScheme hkind hu
  rw [String.toList_ofList, cleaned_append_slash] at hscheme
  obtain ⟨own, hown, rfl⟩ := scheme?_of_append_slash hscheme
  refine ⟨_, own, hown, fun hnil => dropWhile_ne_nil_of_site? hsite ?_, rfl⟩
  rw [List.dropWhile_append, hnil]
  rfl

end HttpChain.Url
