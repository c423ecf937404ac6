import TypingTrainer.Proofs.Drawing

namespace TypingTrainer

namespace Text

theorem flatten_clustersFrom (before cs : List Char) :
    (clustersFrom before cs).flatten = before.reverse ++ cs := by
  induction cs generalizing before with
  | nil => cases before <;> simp [clustersFrom]
  | cons c rest ih =>
      rw [clustersFrom]
      split <;> simp [ih]

theorem flatten_clusters (cs : List Char) : (clusters cs).flatten = cs := flatten_clustersFrom [] cs

end Text

namespace Paragraph

variable {spans : List Span} {gs : List Glyph} {g : Glyph} {width used j : Nat}

def styledGlyphs (gs : List Glyph) : List (Char × Style) :=
  gs.flatMap fun g => g.symbol.map fun c => (c, g.style)

theorem styledGlyphs_clusters {cs : List Char} (style : Style) (h : '\n' ∉ cs) :
    styledGlyphs (((Text.clusters cs).filter fun c => c != ['\n']).map fun c => ⟨c, style⟩) =
      cs.map fun c => (c, style) := by
  have hall : (Text.clusters cs).filter (fun c => c != ['\n']) = Text.clusters cs := by
    refine List.filter_eq_self.2 fun c hc => bne_iff_ne.2 ?_
    rintro rfl
    exact h (Text.flatten_clusters cs ▸ List.mem_flatten.2 ⟨_, hc, List.mem_singleton_self _⟩)
  calc styledGlyphs (((Text.clusters cs).filter fun c => c != ['\n']).map fun c => ⟨c, style⟩)
      = ((Text.clusters cs).map (List.map fun c => (c, style))).flatten := by
        rw [hall, styledGlyphs, List.flatMap_map, List.flatMap_def]
    _ = (Text.clusters cs).flatten.map fun c => (c, style) := List.map_flatten.symm
    _ = cs.map fun c => (c, style) := by rw [Text.flatten_clusters]

theorem styledGlyphs_glyphs (h : ∀ span ∈ spans, '\n' ∉ span.text.toList) :
    styledGlyphs (glyphs spans) = View.styled spans := by
  induction spans with
  | nil => rfl
  | cons span rest ih =>
      obtain ⟨hspan, hrest⟩ := List.forall_mem_cons.1 h
      rw [glyphs, List.flatMap_cons, styledGlyphs, List.flatMap_append]
      exact congr (congrArg _ (styledGlyphs_clusters span.style hspan)) (ih hrest)

theorem fitFrom_of_le (h : used + totalWidth gs ≤ width) : fitFrom width used gs = gs := by
  induction gs generalizing used with
  | nil => rfl
  | cons g rest ih =>
      rw [totalWidth] at h
      rw [fitFrom, if_neg (by omega), if_neg (by omega), ih (by omega)]

theorem fit_of_le (h : totalWidth gs ≤ width) : fit width gs = gs :=
  fitFrom_of_le (by rwa [Nat.zero_add])

theorem totalWidth_fitFrom (h : used ≤ width) (gs : List Glyph) :
    used + totalWidth (fitFrom width used gs) ≤ width := by
  induction gs generalizing used with
  | nil => exact h
  | cons g rest ih =>
      rw [fitFrom]
      split
      · exact ih h
      · split
        · exact h
        · next hroom =>
          rw [totalWidth, ← Nat.add_assoc]
          exact ih (Nat.not_lt.1 hroom)

theorem totalWidth_take_add_le (h : gs[j]? = some g) :
    totalWidth (gs.take j) + g.width ≤ totalWidth gs := by
  induction gs generalizing j with
  | nil => exact nomatch h
  | cons first rest ih =>
      cases j with
      | zero =>
          obtain rfl : first = g := Option.some.inj h
          rw [List.take_zero, totalWidth, totalWidth]
          omega
      | succ j =>
          have hrest := ih (j := j) h
          rw [List.take_succ_cons, totalWidth, totalWidth]
          omega

end Paragraph

namespace Screen

def drawInto (row : Array Cell) (x : Nat) : List Glyph → Array Cell
  | [] => row
  | g :: rest =>
    if g.width = 0 then drawInto row x rest
    else drawInto (row.setIfInBounds x ⟨String.ofList g.symbol, g.style⟩) (x + g.width) rest

variable {s : Screen} {r : Rect} {a : Alignment} {i k y n : Nat}

theorem getElem?_drawInto_of_lt (row : Array Cell) {x k : Nat} (gs : List Glyph) (h : k < x) :
    (drawInto row x gs)[k]? = row[k]? := by
  induction gs generalizing row x with
  | nil => rfl
  | cons g rest ih =>
      rw [drawInto]
      split
      · exact ih row h
      · rw [ih _ (Nat.lt_add_right _ h), Array.getElem?_setIfInBounds_ne (Nat.ne_of_gt h)]

theorem getElem?_drawInto (row : Array Cell) {x j : Nat} {gs : List Glyph} {g : Glyph}
    (hg : gs[j]? = some g) (hwidth : 0 < g.width)
    (hroom : x + Paragraph.totalWidth (gs.take j) < row.size) :
    (drawInto row x gs)[x + Paragraph.totalWidth (gs.take j)]? =
      some ⟨String.ofList g.symbol, g.style⟩ := by
  induction gs generalizing row x j with
  | nil => exact nomatch hg
  | cons first rest ih =>
      rw [drawInto]
      cases j with
      | zero =>
          obtain rfl : first = g := Option.some.inj hg
          have hzero : x + Paragraph.totalWidth ((first :: rest).take 0) = x := rfl
          rw [hzero] at hroom ⊢
          rw [if_neg (Nat.ne_of_gt hwidth),
            getElem?_drawInto_of_lt _ rest (Nat.lt_add_of_pos_right hwidth)]
          exact Array.getElem?_setIfInBounds_self_of_lt hroom
      | succ j =>
          have hcolumn : x + Paragraph.totalWidth ((first :: rest).take (j + 1)) =
              x + first.width + Paragraph.totalWidth (rest.take j) := by
            rw [List.take_succ_cons, Paragraph.totalWidth, Nat.add_assoc]
          rw [hcolumn] at hroom ⊢
          split
          · next hzero =>
            rw [hzero] at hroom ⊢
            exact ih row hg hroom
          · exact ih _ hg (by rwa [Array.size_setIfInBounds])

theorem getElem?_drawGlyphs (s : Screen) (x y : Nat) (glyphs : List Glyph) (k : Nat) :
    (s.drawGlyphs x y glyphs).rows[k]? =
      if y = k then s.rows[k]?.map (drawInto · x glyphs) else s.rows[k]? := by
  induction glyphs generalizing s x with
  | nil => simp [drawGlyphs, drawInto]
  | cons g rest ih =>
      by_cases hwidth : g.width = 0
      · simp only [drawGlyphs, drawInto, if_pos hwidth, ih]
      · simp only [drawGlyphs, drawInto, if_neg hwidth, ih, put, Array.getElem?_modify]
        by_cases hy : y = k
        · simp only [if_pos hy, Option.map_map]
          rfl
        · simp only [if_neg hy]

section

variable {lines : List (List Glyph)} {line : List Glyph}

def stack (s : Screen) (column : List Glyph → Nat) (y n : Nat) (lines : List (List Glyph)) :
    Screen :=
  (lines.zipIdx n).foldl (fun s e => s.drawGlyphs (column e.1) (y + e.2) e.1) s

theorem getElem?_stack_outside (column : List Glyph → Nat)
    (hk : k < y + n ∨ y + n + lines.length ≤ k) :
    (s.stack column y n lines).rows[k]? = s.rows[k]? := by
  induction lines generalizing s n with
  | nil => rfl
  | cons line rest ih =>
      rw [List.length_cons] at hk
      have hne : y + n ≠ k := by omega
      have hrest := ih (s := s.drawGlyphs (column line) (y + n) line) (n := n + 1) (by omega)
      rw [getElem?_drawGlyphs, if_neg hne] at hrest
      exact hrest

theorem getElem?_stack (column : List Glyph → Nat) (h : lines[i]? = some line) :
    (s.stack column y n lines).rows[y + n + i]? =
      s.rows[y + n + i]?.map (drawInto · (column line) line) := by
  induction lines generalizing s n i with
  | nil => exact nomatch h
  | cons first rest ih =>
      have hstack : s.stack column y n (first :: rest) =
          (s.drawGlyphs (column first) (y + n) first).stack column y (n + 1) rest := rfl
      rw [hstack]
      cases i with
      | zero =>
          obtain rfl : first = line := Option.some.inj h
          exact (getElem?_stack_outside column (.inl (by omega))).trans
            ((getElem?_drawGlyphs ..).trans (if_pos rfl))
      | succ i =>
          have hrow : y + n + (i + 1) = y + (n + 1) + i := by omega
          rw [hrow, ih h, getElem?_drawGlyphs, if_neg (by omega)]

end

/-- What is documented of painting lines of text from the left: each has a row to itself, as far as
it fits, and the other rows stay. -/
structure Paints (paint : Screen → Rect → Alignment → List (List Span) → Screen) : Prop where
  row (s : Screen) (r : Rect) (lines : List (List Span)) (i : Nat) (line : List Span) :
    r.isEmpty = false → lines.length ≤ r.height → lines[i]? = some line →
    (paint s r .left lines).rows[r.y + i]? = s.rows[r.y + i]?.map
      (drawInto · r.x (Paragraph.fit r.width (Paragraph.glyphs line)))
  outside (s : Screen) (r : Rect) (lines : List (List Span)) (k : Nat) :
    lines.length ≤ r.height → k < r.y ∨ r.y + lines.length ≤ k →
    (paint s r .left lines).rows[k]? = s.rows[k]?

theorem drawText_eq_stack {lines : List (List Span)} (h : r.isEmpty = false) (a : Alignment)
    (hlines : lines.length ≤ r.height) : s.drawText r a lines =
      s.stack (fun line => r.x + a.offset r.width (Paragraph.totalWidth line)) r.y 0
        (lines.map fun l => Paragraph.fit r.width (Paragraph.glyphs l)) := by
  rw [drawText, drawLines, h, if_neg Bool.false_ne_true, List.take_of_length_le (by simpa)]
  rfl

theorem paints_drawText : Paints drawText where
  row s r lines i line hroom hlines hline := by
    rw [drawText_eq_stack hroom .left hlines]
    apply getElem?_stack (n := 0)
    rw [List.getElem?_map, hline]
    rfl
  outside s r lines k hlines hk := by
    cases hroom : r.isEmpty with
    | true => rw [drawText, drawLines, hroom, if_pos rfl]
    | false =>
        rw [drawText_eq_stack hroom .left hlines]
        apply getElem?_stack_outside
        rwa [List.length_map]

end Screen

namespace View

variable {lines : List Line} {s : Session} {count height cursor i : Nat}

theorem exists_row (hcursor : cursor < count) (hheight : 0 < height) :
    ∃ k < height, cursor = firstLine count height cursor + k := by
  refine ⟨cursor - firstLine count height cursor, ?_, ?_⟩
  · rw [firstLine]
    omega
  · rw [firstLine]
    omega

theorem firstLine_eq_zero (h : count ≤ height) : firstLine count height cursor = 0 := by
  rw [firstLine, Nat.sub_eq_zero_of_le h, Nat.min_zero]

theorem firstLine_add_le (h : height ≤ count) : firstLine count height cursor + height ≤ count := by
  rw [firstLine]
  omega

theorem getElem?_window (lines : List Line) (s : Session) (height i : Nat) :
    (window lines s height)[i]? =
      if i < height then lines[firstLine lines.length height s.line + i]?.map fun l =>
        (firstLine lines.length height s.line + i,
          status s (firstLine lines.length height s.line + i), l)
      else none := by
  rw [window, List.getElem?_map, List.getElem?_zipIdx, List.getElem?_take]
  split
  · rw [List.getElem?_drop, Option.map_map, Nat.zero_add]
    rfl
  · rfl

theorem length_window (lines : List Line) (s : Session) (height : Nat) :
    (window lines s height).length = min height lines.length := by
  rw [window, List.length_map, List.length_zipIdx, List.length_take, List.length_drop]
  rcases Nat.le_total lines.length height with h | h
  · rw [firstLine_eq_zero h, Nat.sub_zero]
  · have hbottom : firstLine lines.length height s.line + height ≤ lines.length :=
      firstLine_add_le h
    omega

theorem status_eq_current_iff : status s i = .current ↔ i = s.line ∧ s.phase ≠ .complete := by
  unfold status
  split
  · next h => exact ⟨fun _ => h, fun _ => rfl⟩
  · next h =>
      refine ⟨fun hcurrent => ?_, fun hcurrent => absurd hcurrent h⟩
      split at hcurrent <;> exact nomatch hcurrent

theorem filter_window {l : Line} (hl : lines[s.line]? = some l) (hheight : 0 < height) :
    (window lines s height).filter (fun e => e.2.1 = .current) =
      if s.phase = .complete then [] else [(s.line, .current, l)] := by
  obtain ⟨k, hlt, hk⟩ := exists_row (List.getElem?_eq_some_iff.1 hl).1 hheight
  rw [window, List.filter_map]
  split
  · next hphase =>
      rw [List.map_eq_nil_iff, List.filter_eq_nil_iff]
      intro e _ hcurrent
      exact (status_eq_current_iff.1 (of_decide_eq_true hcurrent)).2 hphase
  · next hphase =>
      have hcurrent : ((fun e : Nat × Status × Line => decide (e.2.1 = .current)) ∘
          fun e : Line × Nat => (firstLine lines.length height s.line + e.2,
            status s (firstLine lines.length height s.line + e.2), e.1)) =
          fun e => e.2 == 0 + k := by
        funext e
        rw [Function.comp_apply, Bool.eq_iff_iff, decide_eq_true_iff, status_eq_current_iff,
          beq_iff_eq]
        exact ⟨fun h => by omega, fun h => ⟨by omega, hphase⟩⟩
      have hdrawn : ((lines.drop (firstLine lines.length height s.line)).take height)[k]? =
          some l := by
        rw [List.getElem?_take, if_pos hlt, List.getElem?_drop, ← hk, hl]
      have hstatus : status s s.line = .current := status_eq_current_iff.2 ⟨rfl, hphase⟩
      rw [hcurrent, filter_zipIdx_eq, hdrawn]
      simp only [Option.map_some, Option.toList_some, List.map_cons, List.map_nil, Nat.zero_add,
        ← hk, hstatus]

variable {screen : Screen} {area : Rect} {e : Nat × Status × Line} {k : Nat}

theorem length_spans_le (lines : List Line) (s : Session) (height : Nat) :
    ((window lines s height).map fun (_, status, l) => lineSpans l status s).length ≤ height := by
  rw [List.length_map, length_window]
  exact Nat.min_le_left ..

section Paint

variable {paint : Screen → Rect → Screen.Alignment → List (List Span) → Screen}

theorem getElem?_drawCode (hpaint : Screen.Paints paint) (hwidth : 0 < area.width)
    (h : (window lines s area.height)[i]? = some e) :
    (drawCode screen area lines s paint).rows[area.y + i]? =
      screen.rows[area.y + i]?.map (Screen.drawInto · area.x
        (Paragraph.fit area.width (Paragraph.glyphs (lineSpans e.2.2 e.2.1 s)))) := by
  have hi : i < min area.height lines.length := by
    rw [← length_window lines s]
    exact (List.getElem?_eq_some_iff.1 h).1
  have hroom : area.isEmpty = false := by
    simp only [Rect.isEmpty, Bool.or_eq_false_iff, beq_eq_false_iff_ne]
    omega
  refine hpaint.row screen area _ i _ hroom (length_spans_le lines s area.height) ?_
  rw [List.getElem?_map, h]
  rfl

theorem getElem?_drawCode_outside (hpaint : Screen.Paints paint)
    (hk : k < area.y ∨ area.y + (window lines s area.height).length ≤ k) :
    (drawCode screen area lines s paint).rows[k]? = screen.rows[k]? := by
  refine hpaint.outside screen area _ k (length_spans_le lines s area.height) ?_
  rwa [List.length_map]

end Paint

def rowGlyphs (area : Rect) (s : Session) (e : Nat × Status × Line) : List Glyph :=
  Paragraph.fit area.width (Paragraph.glyphs (lineSpans e.2.2 e.2.1 s))

theorem exists_drawCode_row {row : Array Cell} (hwidth : 0 < area.width)
    (he : (window lines s area.height)[i]? = some e) (hrow : screen.rows[area.y + i]? = some row)
    (hroom : area.x + area.width ≤ row.size) :
    ∃ drawn, (drawCode screen area lines s).rows[area.y + i]? = some drawn ∧
      ∀ j g, (rowGlyphs area s e)[j]? = some g → 0 < g.width →
        drawn[area.x + Paragraph.totalWidth ((rowGlyphs area s e).take j)]? =
          some ⟨String.ofList g.symbol, g.style⟩ := by
  refine ⟨Screen.drawInto row area.x (rowGlyphs area s e), ?_, fun j g hg hpos => ?_⟩
  · rw [getElem?_drawCode Screen.paints_drawText hwidth he, hrow, Option.map_some, rowGlyphs]
  · refine Screen.getElem?_drawInto row hg hpos ?_
    have hfits : 0 + Paragraph.totalWidth (rowGlyphs area s e) ≤ area.width :=
      Paragraph.totalWidth_fitFrom (Nat.zero_le _) _
    have hcolumn := Paragraph.totalWidth_take_add_le hg
    omega

/-- The lines that are drawn in an area, the first of them at `first`. -/
structure Framed (lines : List Line) (s : Session) (area : Rect) (first : Nat)
    (shown : List (Nat × Status × Line)) : Prop where
  length_eq : shown.length = min area.height lines.length
  consecutive : ∀ i e, shown[i]? = some e →
    e.1 = first + i ∧ lines[e.1]? = some e.2.2 ∧ e.2.1 = status s e.1
  top : lines.length ≤ area.height → first = 0
  bottom : area.height < lines.length → first + area.height ≤ lines.length
  cursor : ∃ e ∈ shown, e.1 = s.line
  current : ∃ l, lines[s.line]? = some l ∧ shown.filter (fun e => e.2.1 = .current) =
    if s.phase = .complete then [] else [(s.line, .current, l)]
  drawn : 0 < area.width → ∀ (screen : Screen) i e, shown[i]? = some e →
    (drawCode screen area lines s).rows[area.y + i]? =
      screen.rows[area.y + i]?.map (Screen.drawInto · area.x
        (Paragraph.fit area.width (Paragraph.glyphs (lineSpans e.2.2 e.2.1 s))))
  elsewhere : ∀ (screen : Screen) k, k < area.y ∨ area.y + shown.length ≤ k →
    (drawCode screen area lines s).rows[k]? = screen.rows[k]?
  /-- Each glyph that is seen stands in the column behind those before it. -/
  cells : 0 < area.width → ∀ (screen : Screen) i e row, shown[i]? = some e →
    screen.rows[area.y + i]? = some row → area.x + area.width ≤ row.size →
    ∃ drawn, (drawCode screen area lines s).rows[area.y + i]? = some drawn ∧
      ∀ j g, (rowGlyphs area s e)[j]? = some g → 0 < g.width →
        drawn[area.x + Paragraph.totalWidth ((rowGlyphs area s e).take j)]? =
          some ⟨String.ofList g.symbol, g.style⟩
  spelled : ∀ e ∈ shown, (∀ span ∈ lineSpans e.2.2 e.2.1 s, '\n' ∉ span.text.toList) →
    Paragraph.totalWidth (Paragraph.glyphs (lineSpans e.2.2 e.2.1 s)) ≤ area.width →
    Paragraph.styledGlyphs (rowGlyphs area s e) = styled (lineSpans e.2.2 e.2.1 s)

/-- The current line is on the screen wherever there is room for a line. -/
theorem window_framed (lines : List Line) (s : Session) (area : Rect)
    (hcursor : s.line < lines.length) (hheight : 0 < area.height) :
    Framed lines s area (firstLine lines.length area.height s.line)
      (window lines s area.height) where
  length_eq := length_window lines s area.height
  consecutive i e he := by
    rw [getElem?_window] at he
    split at he
    · obtain ⟨l, hl, rfl⟩ := Option.map_eq_some_iff.1 he
      exact ⟨rfl, hl, rfl⟩
    · exact nomatch he
  top := firstLine_eq_zero
  bottom h := firstLine_add_le (Nat.le_of_lt h)
  cursor := by
    obtain ⟨k, hlt, hk⟩ := exists_row hcursor hheight
    refine ⟨(s.line, status s s.line, lines[s.line]), List.mem_of_getElem? (i := k) ?_, rfl⟩
    rw [getElem?_window, if_pos hlt, ← hk, List.getElem?_eq_getElem hcursor]
    rfl
  current := ⟨_, List.getElem?_eq_getElem hcursor,
    filter_window (List.getElem?_eq_getElem hcursor) hheight⟩
  drawn hwidth _ _ _ := getElem?_drawCode Screen.paints_drawText hwidth
  elsewhere _ _ := getElem?_drawCode_outside Screen.paints_drawText
  cells hwidth _ _ _ _ he hrow hroom := exists_drawCode_row hwidth he hrow hroom
  spelled e _ hfeeds hfits := by
    rw [rowGlyphs, Paragraph.fit_of_le hfits, Paragraph.styledGlyphs_glyphs hfeeds]

/-- The last of five lines is the current one, and there is room for two. -/
theorem window_framed_last :
    let lines := (Snippet.ofWords ["a", "b", "c", "d", "e"]).lines
    let shown := window lines { line := 4 } 2
    shown.length = 2 ∧ ∃ l, shown.filter (fun e => e.2.1 = .current) = [(4, .current, l)] := by
  intro lines shown
  have h : Framed lines { line := 4 } ⟨2, 1, 20, 2⟩ (firstLine 5 2 4) shown :=
    window_framed lines { line := 4 } ⟨2, 1, 20, 2⟩ (by decide) (by decide)
  obtain ⟨l, -, hcurrent⟩ := h.current
  exact ⟨h.length_eq, l, hcurrent⟩

end View

end TypingTrainer
