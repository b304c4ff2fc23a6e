import HttpChain.Proofs.Http.HeaderLine
import HttpChain.Proofs.Request.CommonHeaders
import HttpChain.Proofs.Variable.Front

/-!
# HttpChain.Proofs.Request.HeaderNames

Variables do not change which headers a request has.  Where no brace stands ahead of
the first colon of a header line, no placeholder reaches across that colon and no
value comes ahead of it: the line sets the header that it names as it is written
(`line?_substitute`).  The names of the headers of a request are therefore settled by
the template and the config (`names_of_resolve`).
-/

namespace HttpChain

open Text (trim)

/-! ## one line -/

namespace HeaderList

/-- A line names its header itself: no brace stands ahead of its first colon. -/
def Fixed (line : String) : Prop :=
  ∃ ahead behind : List Char, line.toList = ahead ++ ':' :: behind ∧ ':' ∉ ahead ∧ '\x7b' ∉ ahead

section Line

variable {line : String} {ahead behind : List Char} (h : line.toList = ahead ++ ':' :: behind)
  (hcolon : ':' ∉ ahead) (hbrace : '\x7b' ∉ ahead) (ctx : Context) (draws : Draws)
include h hbrace

theorem substitute_line :
    substitute .plain ctx line draws =
      (String.ofList (ahead ++
          ':' :: (substitute .plain ctx (String.ofList behind) draws).1.toList),
        (substitute .plain ctx (String.ofList behind) draws).2) := by
  have hfront : '\x7b' ∉ ahead ++ [':'] := by simpa using hbrace
  have hline : line = String.ofList ((ahead ++ [':']) ++ behind) :=
    String.toList_inj.1 (by simp [h])
  rw [hline, substitute_append .plain ctx hfront]
  simp

include hcolon

/-- Values go into the value of a header, and nowhere else. -/
theorem line?_substitute :
    line? (substitute .plain ctx line draws).1 =
      if trim ahead = [] then none
      else some (String.ofList (trim ahead),
        String.ofList (trim (substitute .plain ctx (String.ofList behind) draws).1.toList)) := by
  rw [substitute_line h hbrace]
  exact line?_of_append (String.toList_ofList) hcolon

/-- The line names the header that it names as it is written. -/
theorem name_substitute :
    (line? (substitute .plain ctx line draws).1).map Prod.fst = (line? line).map Prod.fst := by
  rw [line?_substitute h hcolon hbrace, line?_of_append h hcolon]
  by_cases hblank : trim ahead = []
  · rw [if_pos hblank, if_pos hblank]
  · rw [if_neg hblank, if_neg hblank, Option.map_some, Option.map_some]

end Line

/-! ## the names of a list -/

/-- The names of headers, in order. -/
def names (headers : HeaderList) : List String := headers.map Prod.fst

theorem names_set (headers : HeaderList) (name value : String) :
    (headers.set name value).names =
      headers.names.filter (fun other => !Text.sameName other name) ++ [name] := by
  rw [names, names, set, List.map_append, List.filter_map]
  rfl

theorem names_setLine {headers headers' : HeaderList} {line line' : String}
    (hnames : headers.names = headers'.names)
    (hline : (line? line).map Prod.fst = (line? line').map Prod.fst) :
    ((headers.setLine? line).getD headers).names =
      ((headers'.setLine? line').getD headers').names := by
  rw [setLine?, setLine?]
  cases hl : line? line with
  | none =>
    rw [hl, Option.map_none, eq_comm, Option.map_eq_none_iff] at hline
    rw [hline]
    exact hnames
  | some w =>
    rw [hl, Option.map_some, eq_comm] at hline
    obtain ⟨w', hl', hw⟩ := Option.map_eq_some_iff.1 hline
    rw [hl']
    simp only [Option.map_some, Option.getD_some, names_set, hnames, hw]

theorem setLines_cons (headers : HeaderList) (line : String) (lines : List String) :
    headers.setLines (line :: lines) = ((headers.setLine? line).getD headers).setLines lines := rfl

/-- Which names a list has after lines is settled by the names before and those of
the lines. -/
theorem names_setLines {headers headers' : HeaderList} {lines lines' : List String}
    (hnames : headers.names = headers'.names)
    (hlines : lines.map (fun l => (line? l).map Prod.fst) =
      lines'.map fun l => (line? l).map Prod.fst) :
    (headers.setLines lines).names = (headers'.setLines lines').names := by
  induction lines generalizing headers headers' lines' with
  | nil =>
    obtain rfl := List.map_eq_nil_iff.1 hlines.symm
    exact hnames
  | cons line lines ih =>
    obtain ⟨line', rest, rfl, hline, hrest⟩ := List.map_eq_cons_iff.1 hlines.symm
    rw [setLines_cons, setLines_cons]
    exact ih (names_setLine hnames hline.symm) hrest.symm

end HeaderList

/-! ## the names of a request -/

/-- Lines that name their headers themselves name them whatever the variables hold. -/
theorem names_substituteAll {lines : List String} (h : ∀ line ∈ lines, HeaderList.Fixed line)
    (ctx : Context) (draws : Draws) :
    (substituteAll ctx lines draws).1.map (fun l => (HeaderList.line? l).map Prod.fst) =
      lines.map fun l => (HeaderList.line? l).map Prod.fst := by
  induction lines generalizing draws with
  | nil => rfl
  | cons line lines ih =>
    obtain ⟨⟨ahead, behind, hline, hcolon, hbrace⟩, hlines⟩ := List.forall_mem_cons.1 h
    simp only [substituteAll, Drawing.bind_apply, Drawing.pure_apply, List.map_cons,
      HeaderList.name_substitute hline hcolon hbrace, ih hlines]

namespace Config

/-- The environment settles values of common headers, and no names. -/
theorem names_sharedHeaders (c : Config) (env env' : Environment) (t : RequestTemplate) :
    (c.sharedHeaders env t).names = (c.sharedHeaders env' t).names := by
  have hcommon : HeaderList.names (if t.noHeaders then [] else c.commonHeaders env) =
      HeaderList.names (if t.noHeaders then [] else c.commonHeaders env') := by
    split
    · rfl
    · rw [commonHeaders_eq_map, commonHeaders_eq_map, HeaderList.names, HeaderList.names,
        List.map_map, List.map_map]
      rfl
  rw [sharedHeaders, sharedHeaders, cookie, cookie]
  cases t.noAuth with
  | true => exact hcommon
  | false =>
    cases c.auth.cookie.filter (· ≠ "") with
    | none => exact hcommon
    | some text =>
      simp only [Bool.false_eq_true, if_false, Option.map_some, HeaderList.names_set, hcommon]

end Config

/-- Variables do not add, rename or drop headers.  A header line whose name has no brace
in it sets the one header that it names, if that is more than blanks, and none
otherwise; whatever the variables hold, they make up its value.  If all lines of a
template are of this kind, the names of the headers are the same in every request
that it is resolved to, whatever the variables and the environment are. -/
theorem names_of_resolve :
    (∀ (line : String) (ahead behind : List Char), line.toList = ahead ++ ':' :: behind →
      ':' ∉ ahead → '\x7b' ∉ ahead → ∀ (ctx : Context) (draws : Draws) (headers : HeaderList),
        headers.setLine? (substitute .plain ctx line draws).1 =
          if trim ahead = [] then none
          else some (headers.filter (fun h => !Text.sameName h.1 (String.ofList (trim ahead))) ++
            [(String.ofList (trim ahead),
              Text.strip (substitute .plain ctx (String.ofList behind) draws).1)])) ∧
    ∀ (c : Config) (t : RequestTemplate), (∀ line ∈ t.headers, HeaderList.Fixed line) →
      ∀ env env' ctx ctx' draws draws' r r' log log',
        (c.resolve env t ctx draws).1 = .ok (r, log) →
        (c.resolve env' t ctx' draws').1 = .ok (r', log') →
        r.headers.map Prod.fst = r'.headers.map Prod.fst := by
  refine ⟨fun line ahead behind hline hcolon hbrace ctx draws headers => ?_, ?_⟩
  · rw [HeaderList.setLine?, HeaderList.line?_substitute hline hcolon hbrace]
    by_cases hblank : trim ahead = []
    · rw [if_pos hblank, if_pos hblank, Option.map_none]
    · rw [if_neg hblank, if_neg hblank, Option.map_some, Text.strip]
      rfl
  · intro c t hfixed env env' ctx ctx' draws draws' r r' log log' h h'
    obtain ⟨method, -, -, -, rfl⟩ := Config.of_resolve h
    obtain ⟨method', -, -, -, rfl⟩ := Config.of_resolve h'
    rw [Config.headers_requestOf, Config.headers_requestOf]
    refine HeaderList.names_setLines (c.names_sharedHeaders env env' t) ?_
    rw [RequestTemplate.lineTexts, RequestTemplate.lineTexts, names_substituteAll hfixed,
      names_substituteAll hfixed]

/-- A template that sends a note as a header. -/
def noteHeader : RequestTemplate :=
  { RequestTemplate.bare "GET" "http://[::1]/" with headers := ["X-Note: \x7b\x7bnote\x7d\x7d"] }

theorem fixed_noteHeader : ∀ line ∈ noteHeader.headers, HeaderList.Fixed line := by
  intro line hmem
  obtain rfl := List.mem_singleton.1 hmem
  exact ⟨"X-Note".toList, " \x7b\x7bnote\x7d\x7d".toList, rfl, by decide, by decide⟩

/-- A note that looks like header lines and like a placeholder. -/
def forgedNote : Context :=
  Dict.empty.insert "note" (.string "1\nHost: a, \x7b\x7bb\x7d\x7d")

/-- It is a value like any other. -/
theorem names_of_resolve_note :
    HeaderList.setLine? [("x-note", "0")]
        (substitute .plain forgedNote "X-Note: \x7b\x7bnote\x7d\x7d" ⟨id, id, 0⟩).1 =
      some [("X-Note", "1\nHost: a, \x7b\x7bb\x7d\x7d")] ∧
    ∃ r r' log log',
      (Config.empty.resolve (fun _ => none) noteHeader forgedNote ⟨id, id, 0⟩).1 = .ok (r, log) ∧
      (Config.empty.resolve (fun _ => none) noteHeader {} ⟨id, id, 0⟩).1 = .ok (r', log') ∧
      r.headers.map Prod.fst = r'.headers.map Prod.fst := by
  obtain ⟨hline, hnames⟩ := names_of_resolve
  refine ⟨?_, ?_⟩
  · exact (hline _ "X-Note".toList " \x7b\x7bnote\x7d\x7d".toList rfl (by decide) (by decide)
      forgedNote ⟨id, id, 0⟩ [("x-note", "0")]).trans (by decide +kernel)
  · have h := Config.resolve_of_loopback Config.empty (fun _ => none) (t := noteHeader) rfl rfl
    exact ⟨_, _, _, _, h forgedNote ⟨id, id, 0⟩, h {} ⟨id, id, 0⟩,
      hnames Config.empty noteHeader fixed_noteHeader _ _ _ _ _ _ _ _ _ _ (h _ _) (h _ _)⟩

end HttpChain
