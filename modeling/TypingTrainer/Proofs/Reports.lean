import TypingTrainer.Diagnostics
import TypingTrainer.Filter
import TypingTrainer.Proofs.JsonText
import Mathlib.Algebra.Ring.Nat

namespace TypingTrainer

namespace Json.Value

def member? (name : String) : Value → Option Value
  | .obj members => (members.find? fun m => m.1 == name).map Prod.snd
  | _ => none

end Json.Value

namespace Diagnostics

open Json

def Before (a b : Nat × Nat) : Prop := a.1 < b.1 ∨ a.1 = b.1 ∧ a.2 < b.2

def location? (s : Snippet) (place : Nat × Nat) : Option Location := do
  let l ← s.lines[place.1]?
  return ⟨l.number, place.2, ← l.tokens[place.2]?⟩

def placed (s : Snippet) : List ((Nat × Nat) × Location) :=
  s.lines.zipIdx.flatMap fun (l, i) => l.tokens.zipIdx.map fun (t, j) => ((i, j), ⟨l.number, j, t⟩)

/-- The locations are those of the tokens that a test picks, in the order of the text. -/
structure InOrder (s : Snippet) (picks : Token → Bool) (found : List Location)
    (places : List (Nat × Nat)) : Prop where
  increasing : places.Pairwise Before
  mem_iff (place : Nat × Nat) :
    place ∈ places ↔ ∃ l, location? s place = some l ∧ picks l.token = true
  found : places.map (location? s) = found.map some

variable {s : Snippet} {l : Line}

theorem map_snd_placed (s : Snippet) : (placed s).map Prod.snd = locations s := by
  have hlines := List.flatMap_map (l := s.lines.zipIdx) Prod.fst fun l : Line =>
    l.tokens.zipIdx.map fun (t, i) => (⟨l.number, i, t⟩ : Location)
  rw [List.zipIdx_map_fst] at hlines
  rw [placed, List.map_flatMap, locations, hlines]
  simp only [List.map_map]
  rfl

theorem mem_placed {place : Nat × Nat} {found : Location} :
    (place, found) ∈ placed s ↔ location? s place = some found := by
  simp only [placed, List.mem_flatMap, List.mem_map, Prod.exists, List.mem_zipIdx_iff_getElem?,
    location?, Option.bind_eq_bind, Option.bind_eq_some_iff, Option.pure_def, Option.some.injEq]
  constructor
  · rintro ⟨l, i, hl, t, j, ht, heq⟩
    obtain ⟨rfl, rfl⟩ := Prod.mk.inj heq
    exact ⟨l, hl, t, ht, rfl⟩
  · rintro ⟨l, hl, t, ht, rfl⟩
    exact ⟨l, place.1, hl, t, place.2, ht, rfl⟩

theorem pairwise_zipIdx {α : Type} (as : List α) : as.zipIdx.Pairwise fun a b => a.2 < b.2 := by
  have hindex : (as.zipIdx.map Prod.snd).Pairwise (· < ·) := by
    rw [List.zipIdx_map_snd]
    exact List.pairwise_lt_range'
  exact List.pairwise_map.1 hindex

theorem pairwise_placed (s : Snippet) :
    (placed s).Pairwise fun a b => Before a.1 b.1 := by
  refine List.pairwise_flatMap.2
    ⟨fun e _ => ?_, (pairwise_zipIdx s.lines).imp fun hlt x hx y hy => ?_⟩
  · exact List.pairwise_map.2 ((pairwise_zipIdx e.1.tokens).imp fun hlt => .inr ⟨rfl, hlt⟩)
  · obtain ⟨_, -, rfl⟩ := List.mem_map.1 hx
    obtain ⟨_, -, rfl⟩ := List.mem_map.1 hy
    exact .inl hlt

theorem inOrder_filter (s : Snippet) (picks : Token → Bool) :
    InOrder s picks ((locations s).filter fun l => picks l.token)
      (((placed s).filter fun e => picks e.2.token).map Prod.fst) := by
  refine ⟨?_, fun place => ?_, ?_⟩
  · exact List.pairwise_map.2 ((pairwise_placed s).filter _)
  · rw [List.mem_map]
    constructor
    · rintro ⟨e, he, rfl⟩
      obtain ⟨hmem, hpicks⟩ := List.mem_filter.1 he
      exact ⟨e.2, mem_placed.1 hmem, hpicks⟩
    · rintro ⟨found, hfound, hpicks⟩
      exact ⟨(place, found), List.mem_filter.2 ⟨mem_placed.2 hfound, hpicks⟩, rfl⟩
  · have hfound : ((placed s).filter fun e => picks e.2.token).map Prod.snd =
        (locations s).filter fun l => picks l.token := by
      rw [← map_snd_placed, List.filter_map]
      rfl
    rw [← hfound, List.map_map, List.map_map]
    exact List.map_congr_left fun e he => mem_placed.1 (List.mem_filter.1 he).1

structure Splits (l : Line) (r : LineReport) : Prop where
  once : ((r.typeable ++ r.nonTypeable).map TokenReport.index).Perm (List.range l.tokens.length)
  typeable : (r.typeable.map TokenReport.index).Pairwise (· < ·)
  nonTypeable : (r.nonTypeable.map TokenReport.index).Pairwise (· < ·)
  token_typeable : ∀ t ∈ r.typeable, l.tokens[t.index]? = some t.token ∧ t.token.typeable = true
  token_nonTypeable :
    ∀ t ∈ r.nonTypeable, l.tokens[t.index]? = some t.token ∧ t.token.typeable = false
  blanks : r.blanks.total = r.blanks.typeable + r.blanks.nonTypeable

theorem map_index_reports (tokens : List Token) :
    (reports tokens).map TokenReport.index = List.range tokens.length := by
  rw [reports, List.map_map, List.range_eq_range']
  exact List.zipIdx_map_snd 0 tokens

theorem map_token_reports (tokens : List Token) :
    (reports tokens).map TokenReport.token = tokens := by
  rw [reports, List.map_map]
  exact List.zipIdx_map_fst 0 tokens

theorem getElem?_of_mem_reports {tokens : List Token} {r : TokenReport} (h : r ∈ reports tokens) :
    tokens[r.index]? = some r.token := by
  obtain ⟨⟨t, i⟩, hmem, rfl⟩ := List.mem_map.1 h
  exact List.mem_zipIdx_iff_getElem?.1 hmem

theorem pairwise_filter_reports (tokens : List Token) (p : TokenReport → Bool) :
    (((reports tokens).filter p).map TokenReport.index).Pairwise (· < ·) := by
  have hall : ((reports tokens).map TokenReport.index).Pairwise (· < ·) :=
    map_index_reports tokens ▸ List.pairwise_lt_range
  exact hall.sublist (List.filter_sublist.map _)

theorem countP_blanks (tokens : List Token) : tokens.countP Token.isBlank =
    tokens.countP isTypeableBlank + tokens.countP fun t => t.isBlank && !t.typeable := by
  rw [List.countP_eq_countP_filter_add tokens Token.isBlank Token.typeable, List.countP_filter,
    List.countP_filter]
  rfl

theorem splits_line (l : Line) : Splits l (line l) := by
  refine ⟨?_, pairwise_filter_reports .., pairwise_filter_reports .., fun t ht => ?_,
    fun t ht => ?_, countP_blanks l.tokens⟩
  · rw [← map_index_reports]
    exact (List.filter_append_perm _ _).map _
  · obtain ⟨hmem, ht⟩ := List.mem_filter.1 ht
    exact ⟨getElem?_of_mem_reports hmem, ht⟩
  · obtain ⟨hmem, ht⟩ := List.mem_filter.1 ht
    exact ⟨getElem?_of_mem_reports hmem, Bool.not_eq_true' _ ▸ ht⟩

theorem filter_reports (tokens : List Token) (p : Token → Bool) :
    ((reports tokens).filter fun r => p r.token).map TokenReport.token = tokens.filter p := by
  have htokens : ((reports tokens).map TokenReport.token).filter p = tokens.filter p :=
    congrArg _ (map_token_reports tokens)
  rwa [List.filter_map] at htokens

theorem length_filter_reports (tokens : List Token) (p : Token → Bool) :
    ((reports tokens).filter fun r => p r.token).length = tokens.countP p := by
  rw [List.countP_eq_length_filter, ← filter_reports, List.length_map]

theorem length_line (l : Line) :
    (line l).typeable.length + (line l).nonTypeable.length = l.tokens.length := by
  have hperm := (splits_line l).once.length_eq
  rwa [List.length_map, List.length_append, List.length_range] at hperm

structure Tells (place : Value) (l : Location) : Prop where
  line : place.member? "line" = some (.num l.line)
  text : (place.member? "token").bind (·.member? "text") = some (.str l.token.text)
  kind : (place.member? "token").bind (·.member? "type") = some (.str l.token.kind)

/-- The report of a snippet in the overview and what is exported of it agree with the reports of its
lines and with the problems found in it. -/
structure Agree (s : Snippet) (r : SnippetReport) (exported : Value) : Prop where
  lines : ∀ l ∈ s.lines, Splits l (line l)
  tokens : r.tokens =
    (s.lines.map fun l => (line l).typeable.length + (line l).nonTypeable.length).sum
  typeable : r.typeable = (s.lines.map fun l => (line l).typeable.length).sum
  blanks : r.blanks = (s.lines.map fun l => (line l).blanks.total).sum
  typeableBlanks : r.typeableBlanks = (s.lines.map fun l => (line l).blanks.typeable).sum
  found : r.typeableBlanks = (problems s).typeableBlanks.length
  inOrder : ∃ places, InOrder s isTypeableBlank (problems s).typeableBlanks places
  count : exported.member? "typeable_whitespace_count" = some (.num r.typeableBlanks)
  exported : ∃ places, exported.member? "typeable_whitespace_locations" = some (.arr places) ∧
    places.length = r.typeableBlanks ∧
    ∀ (i : Nat) (place : Value) (l : Location), places[i]? = some place →
      (problems s).typeableBlanks[i]? = some l → Tells place l
  samples : r.samples.map TokenReport.token = (s.lines.flatMap fun l =>
    (line l).typeable.map TokenReport.token).take (min 10 r.typeable)
  indices : r.samples.map TokenReport.index = List.range (min 10 r.typeable)

theorem length_typeableBlanks (s : Snippet) :
    (problems s).typeableBlanks.length = (snippet s).typeableBlanks := by
  have hcount := List.countP_map (p := isTypeableBlank) (f := Location.token) (l := locations s)
  have htokens : (locations s).map Location.token = s.lines.flatMap Line.tokens := by
    rw [locations, List.map_flatMap]
    congr
    funext l
    rw [List.map_map]
    exact List.zipIdx_map_fst 0 l.tokens
  rw [htokens] at hcount
  exact List.countP_eq_length_filter.symm.trans hcount.symm

theorem tells_locationJson (l : Location) : Tells (locationJson l) l := ⟨rfl, rfl, rfl⟩

theorem agree (s : Snippet) : Agree s (snippet s) (snippetJson s) where
  lines l _ := splits_line l
  tokens := by
    simp only [length_line]
    exact List.length_flatMap
  typeable := by
    simp only [line, length_filter_reports]
    exact List.countP_flatMap
  blanks := List.countP_flatMap
  typeableBlanks := List.countP_flatMap
  found := (length_typeableBlanks s).symm
  inOrder := ⟨_, inOrder_filter s isTypeableBlank⟩
  count := congrArg (fun n => some (Value.num n)) (length_typeableBlanks s)
  exported := by
    refine ⟨_, rfl, ?_, fun i place l hplace hl => ?_⟩
    · rw [List.length_map, length_typeableBlanks]
    · rw [List.getElem?_map, hl] at hplace
      exact Option.some.inj hplace ▸ tells_locationJson l
  samples := by
    simp only [line, filter_reports, snippet, map_token_reports]
    rw [← List.filter_flatMap, List.countP_eq_length_filter, ← List.take_eq_take_min]
    rfl
  indices := by
    simp only [snippet, map_index_reports, List.length_take, List.countP_eq_length_filter]
    rfl

structure Clean (s : Snippet) (r : SnippetReport) (exported : Value) : Prop where
  lines : ∀ l ∈ s.lines, (line l).blanks.typeable = 0
  report : r.typeableBlanks = 0
  problems : (problems s).typeableBlanks = []
  count : exported.member? "typeable_whitespace_count" = some (.num 0)
  exported : exported.member? "typeable_whitespace_locations" = some (.arr [])

theorem isTypeableBlank_flagFrom {rules : Rules} {before? : Option Token} {tokens : List Token}
    {t : Token} (h : t ∈ Filter.flagFrom rules before? tokens) : isTypeableBlank t = false := by
  induction tokens generalizing before? with
  | nil => exact nomatch h
  | cons u rest ih =>
      rcases List.mem_cons.1 h with rfl | h
      · -- the flag is looked at for tokens that are not blank alone
        cases hblank : u.isBlank with
        | true => simp [isTypeableBlank, Filter.decides, hblank]
        | false => exact Bool.and_eq_false_imp.2 fun ht => nomatch hblank.symm.trans ht
      · exact ih h

theorem typeable_line_filter (l : Line) (p : Preset) : (line (l.filter p)).blanks.typeable = 0 :=
  List.countP_eq_zero.2 fun _ ht => Bool.eq_false_iff.1 (isTypeableBlank_flagFrom ht)

theorem clean_filter (s : Snippet) (p : Preset) :
    Clean (s.filter p) (snippet (s.filter p)) (snippetJson (s.filter p)) := by
  have hlines : ∀ l ∈ (s.filter p).lines, (line l).blanks.typeable = 0 := by
    intro l hl
    obtain ⟨source, -, rfl⟩ := List.mem_map.1 hl
    exact typeable_line_filter source p
  have hreport : (snippet (s.filter p)).typeableBlanks = 0 := by
    refine List.countP_eq_zero.2 fun t ht => ?_
    obtain ⟨l, hl, ht⟩ := List.mem_flatMap.1 ht
    exact List.countP_eq_zero.1 (hlines l hl) t ht
  have hproblems : (problems (s.filter p)).typeableBlanks = [] :=
    List.eq_nil_of_length_eq_zero ((length_typeableBlanks _).trans hreport)
  refine ⟨hlines, hreport, hproblems, ?_, ?_⟩
  · rw [(agree _).count, hreport]
  · simp only [snippetJson, hproblems]
    rfl

/-- For every list of snippets the overview and the exported text have an entry for each, in order,
which agrees with the other reports on it. For a filtered snippet they find nothing. -/
theorem reports_agree (snippets : List Snippet) :
    ∃ exported : List Value,
      read (symbols (exportText snippets).toList) = ⟨(Value.arr exported).node, []⟩ ∧
      exported.length = snippets.length ∧ (overview snippets).length = snippets.length ∧
      ∀ (i : Nat) (s : Snippet), snippets[i]? = some s →
        ∃ r v, (overview snippets)[i]? = some r ∧ exported[i]? = some v ∧ Agree s r v ∧
          ∀ source p, s = Snippet.filter source p → Clean s r v := by
  refine ⟨snippets.map snippetJson, read_text blank_pretty _, List.length_map ..,
    List.length_map .., fun i s hs => ⟨snippet s, snippetJson s, ?_, ?_, agree s, ?_⟩⟩
  · rw [overview, List.getElem?_map, hs]
    rfl
  · rw [List.getElem?_map, hs]
    rfl
  · rintro source p rfl
    exact clean_filter source p

def spaced : Snippet where
  language := .python
  totalLines := 1
  lines := [⟨4, 0, [.ofText "x" "identifier" [.identifier] 0,
    { Token.ofText " " "whitespace" [] 1 with typeable := true }], "", ∅⟩]

theorem reports_agree_spaced :
    (∃ r v, (overview [spaced, spaced.filter .full])[0]? = some r ∧ Agree spaced r v ∧
      r.typeableBlanks = 1) ∧
    ∃ r v, (overview [spaced, spaced.filter .full])[1]? = some r ∧
      Clean (spaced.filter .full) r v := by
  obtain ⟨_, -, -, -, hagree⟩ := reports_agree [spaced, spaced.filter .full]
  obtain ⟨r, v, hr, -, hspaced, -⟩ := hagree 0 spaced rfl
  obtain ⟨r', v', hr', -, -, hclean⟩ := hagree 1 (spaced.filter .full) rfl
  have hone : r.typeableBlanks = 1 := by
    obtain rfl := Option.some.inj hr
    decide
  exact ⟨⟨r, v, hr, hspaced, hone⟩, r', v', hr', hclean spaced .full rfl⟩

end Diagnostics

end TypingTrainer
