import TypingTrainer.Proofs.Database
import TypingTrainer.Proofs.TimeText

namespace TypingTrainer.Stats

open Json

variable {σ : Type} {db : Database σ} {form : Time.Form}
variable {id : String} {results mine : List Result} {row : Row}

def brimful : Float := 9223372036854775808

/-- A count as it is kept. Beyond the largest integer it stays the same. -/
def counted (n : Nat) : Amount :=
  if n < 9223372036854775808 then .integer n else .real brimful

theorem fits_natCast_succ {n : Nat} (h : n + 1 < 9223372036854775808) :
    Amount.fits (n + 1) = true := by
  rw [Amount.fits, Amount.minInteger, Amount.maxInteger, Bool.and_eq_true, decide_eq_true_iff,
    decide_eq_true_iff]
  omega

theorem next_counted (n : Nat) : (counted n).next = counted (n + 1) := by
  unfold counted
  by_cases hn : n < 9223372036854775808
  · rw [if_pos hn]
    by_cases hn' : n + 1 < 9223372036854775808
    · have hadd : Amount.addOne (.integer n) = .integer (n + 1) := by
        rw [Amount.addOne, if_pos (fits_natCast_succ hn')]
      rw [if_pos hn']
      exact congrArg Amount.settle hadd
    · obtain rfl : n = 9223372036854775807 := by omega
      rfl
  · rw [if_neg hn, if_neg (by omega)]
    rfl

theorem max_integer (n m : Nat) : Amount.max (.integer n) m = .integer (max n m : Nat) := by
  rw [Amount.max, Amount.below]
  split
  · next hlt =>
    rw [Nat.max_eq_right (by simpa using Nat.le_of_lt (by simpa using hlt))]
  · next hge =>
    rw [Nat.max_eq_left (by simpa using hge)]

theorem max?_concat {l : List Nat} {n : Nat} (h : l.max? = some n) (m : Nat) :
    (l ++ [m]).max? = some (max n m) := by
  obtain ⟨hmem, hle⟩ := List.max?_eq_some_iff.1 h
  refine List.max?_eq_some_iff.2 ⟨?_, fun b hb => ?_⟩
  · rcases Nat.le_total n m with hnm | hmn
    · exact List.mem_append_right _ (by simp [Nat.max_eq_right hnm])
    · exact List.mem_append_left _ ((Nat.max_eq_left hmn).symm ▸ hmem)
  · rcases List.mem_append.1 hb with hb | hb
    · exact Nat.le_trans (hle b hb) (Nat.le_max_left ..)
    · exact List.mem_singleton.1 hb ▸ Nat.le_max_right ..

theorem max?_perm {l l' : List Nat} {n n' : Nat} (hperm : l.Perm l') (h : l.max? = some n)
    (h' : l'.max? = some n') : n = n' := by
  obtain ⟨hmem, hle⟩ := List.max?_eq_some_iff.1 h
  obtain ⟨hmem', hle'⟩ := List.max?_eq_some_iff.1 h'
  exact Nat.le_antisymm (hle' n (hperm.mem_iff.1 hmem)) (hle n' (hperm.mem_iff.2 hmem'))

structure Row.Holds (form : Time.Form) (row : Row) (mine : List Result) : Prop where
  wpm : ∃ n : Nat, row.bestWpm = .integer n ∧ (mine.map fun r => r.wpm.toNat).max? = some n
  accuracy : ∃ n : Nat, row.bestAccuracy = .integer n ∧
    (mine.map fun r => r.accuracy.toNat).max? = some n
  count : row.practiceCount = counted mine.length
  time : mine.getLast?.map (fun r => form.write r.time r.zone) = some row.lastPracticed

theorem holds_add_none (form : Time.Form) (r : Result) : (Row.add form none r).Holds form [r] :=
  ⟨⟨_, rfl, rfl⟩, ⟨_, rfl, rfl⟩, rfl, rfl⟩

theorem Row.Holds.add (h : row.Holds form mine) (r : Result) :
    (Row.add form (some row) r).Holds form (mine ++ [r]) := by
  obtain ⟨w, hw, hwmax⟩ := h.wpm
  obtain ⟨a, ha, hamax⟩ := h.accuracy
  have hadd : Row.add form (some row) r = ⟨row.bestWpm.max r.wpm.toNat,
    row.bestAccuracy.max r.accuracy.toNat, row.practiceCount.next, form.write r.time r.zone⟩ := rfl
  refine ⟨⟨max w r.wpm.toNat, ?_, ?_⟩, ⟨max a r.accuracy.toNat, ?_, ?_⟩, ?_, ?_⟩
  · rw [hadd, hw, max_integer]
  · rw [List.map_append]
    exact max?_concat hwmax _
  · rw [hadd, ha, max_integer]
  · rw [List.map_append]
    exact max?_concat hamax _
  · rw [hadd, h.count, next_counted, List.length_append]
    rfl
  · rw [List.getLast?_concat]
    rfl

theorem holds_foldRow (h : row.Holds form mine) (more : List Result) :
    ∃ row', foldRow form (some row) more = some row' ∧ row'.Holds form (mine ++ more) := by
  induction more generalizing row mine with
  | nil => exact ⟨row, rfl, (List.append_nil mine).symm ▸ h⟩
  | cons r more ih =>
      obtain ⟨row', hrow, hholds⟩ := ih (h.add r)
      exact ⟨row', hrow, by rwa [List.append_assoc] at hholds⟩

theorem foldRow_eq_none_iff : foldRow form none mine = none ↔ mine = [] := by
  cases mine with
  | nil => exact ⟨fun _ => rfl, fun _ => rfl⟩
  | cons r mine =>
      obtain ⟨row, hrow, -⟩ := holds_foldRow (holds_add_none form r) mine
      refine ⟨fun h => ?_, fun h => nomatch h⟩
      exact nomatch hrow.symm.trans h

theorem holds_of_foldRow (h : foldRow form none mine = some row) : row.Holds form mine := by
  cases mine with
  | nil => exact nomatch h
  | cons r mine =>
      obtain ⟨row', hrow, hholds⟩ := holds_foldRow (holds_add_none form r) mine
      obtain rfl : row' = row := Option.some.inj (hrow.symm.trans h)
      exact hholds

/-- The results can be read: their number has 32 bits, and the time of the last one is legible. -/
structure Readable (mine : List Result) : Prop where
  count : mine.length < 4294967296
  legible : ∀ r ∈ mine.getLast?, r.time.Legible r.zone

/-- What is read of a snippet is made of the results for it. -/
structure Best.Of (b : Best) (mine : List Result) : Prop where
  wpm : (mine.map fun r => r.wpm.toNat).max? = some b.wpm
  accuracy : (mine.map fun r => r.accuracy.toNat).max? = some b.accuracy
  count : b.practiceCount = mine.length
  last : mine.getLast?.map (fun r => r.time.kept r.zone) = some b.lastPracticed

theorem Best.Of.lastPracticed_eq {b : Best} {r : Result} (h : b.Of mine)
    (hlast : mine.getLast? = some r) (hsound : r.time.Sound) (hzone : r.zone % 60 = 0) :
    b.lastPracticed = r.time := by
  have hkept := h.last
  rw [hlast, Option.map_some, r.time.kept_eq hsound hzone] at hkept
  exact (Option.some.inj hkept).symm

def Best.untimed (b : Best) : Nat × Nat × Nat := (b.wpm, b.accuracy, b.practiceCount)

theorem Best.Of.untimed_eq {b b' : Best} {mine' : List Result} (h : b.Of mine) (h' : b'.Of mine')
    (hperm : mine.Perm mine') : b.untimed = b'.untimed := by
  have hwpm : b.wpm = b'.wpm := max?_perm (hperm.map _) h.wpm h'.wpm
  have haccuracy : b.accuracy = b'.accuracy := max?_perm (hperm.map _) h.accuracy h'.accuracy
  have hcount : b.practiceCount = b'.practiceCount :=
    h.count.trans (hperm.length_eq.trans h'.count.symm)
  rw [Best.untimed, Best.untimed, hwpm, haccuracy, hcount]

theorem Best.Of.unique {b b' : Best} (h : b.Of mine) (h' : b'.Of mine) : b = b' := by
  have huntimed := h.untimed_eq h' (List.Perm.refl _)
  have hlast : b.lastPracticed = b'.lastPracticed := Option.some.inj (h.last.symm.trans h'.last)
  obtain ⟨wpm, accuracy, count, last⟩ := b
  obtain ⟨wpm', accuracy', count', last'⟩ := b'
  obtain ⟨rfl, hrest⟩ := Prod.mk.inj huntimed
  obtain ⟨rfl, rfl⟩ := Prod.mk.inj hrest
  exact congrArg _ hlast

theorem readCount_integer {n : Nat} (h : n < 4294967296) (index : Nat) (column : String) :
    readCount (.integer n) index column = .ok n := by
  have hbound : (n : Int) < countBound := by
    rw [countBound]
    omega
  rw [readCount, if_pos ⟨Int.natCast_nonneg n, hbound⟩]
  rfl

theorem max?_lt {f : Result → UInt32} {n : Nat}
    (h : (mine.map fun r => (f r).toNat).max? = some n) : n < 4294967296 := by
  obtain ⟨hmem, -⟩ := List.max?_eq_some_iff.1 h
  obtain ⟨r, -, rfl⟩ := List.mem_map.1 hmem
  exact (f r).toNat_lt

theorem Row.Holds.read (h : row.Holds form mine) (hform : form.Faithful) (hr : Readable mine)
    (offset : Nat) : ∃ b, row.read form offset = .ok b ∧ b.Of mine := by
  obtain ⟨w, hw, hwmax⟩ := h.wpm
  obtain ⟨a, ha, hamax⟩ := h.accuracy
  have hcount := h.count
  rw [counted, if_pos (Nat.lt_trans hr.count (by decide))] at hcount
  obtain ⟨r, hlast, htime⟩ := Option.map_eq_some_iff.1 h.time
  have hread : form.read? row.lastPracticed = some (r.time.kept r.zone) :=
    htime ▸ hform.read?_write r.time r.zone (hr.legible r hlast)
  refine ⟨⟨w, a, mine.length, r.time.kept r.zone⟩, ?_, hwmax, hamax, rfl,
    congrArg (Option.map _) hlast⟩
  simp only [Row.read, hread, hw, ha, hcount, readCount_integer (max?_lt hwmax),
    readCount_integer (max?_lt hamax), readCount_integer hr.count]
  rfl

theorem readCount_counted {n : Nat} (h : 4294967296 ≤ n) (index : Nat) (column : String) :
    ∃ fault, readCount (counted n) index column = .error fault := by
  rw [counted]
  split
  · have hbound : ¬ (n : Int) < countBound := by
      rw [countBound]
      omega
    rw [readCount, if_neg fun hlt => hbound hlt.2]
    exact ⟨_, rfl⟩
  · exact ⟨_, rfl⟩

theorem Row.Holds.readable (h : row.Holds form mine) (hform : form.Faithful) {offset : Nat}
    {b : Best} (hb : row.read form offset = .ok b) : Readable mine := by
  constructor
  · refine Nat.lt_of_not_le fun hmany => ?_
    obtain ⟨w, hw, hwmax⟩ := h.wpm
    obtain ⟨a, ha, hamax⟩ := h.accuracy
    -- the time and the bests are read before the count
    obtain ⟨fault, hfault⟩ := readCount_counted hmany (offset + 2) "practice_count"
    rw [Row.read] at hb
    split at hb
    · simp only [hw, ha, h.count, readCount_integer (max?_lt hwmax),
        readCount_integer (max?_lt hamax), hfault] at hb
      exact nomatch hb
    · exact nomatch hb
  · intro r hlast
    refine Decidable.of_not_not fun hlegible => ?_
    have htime : row.lastPracticed = form.write r.time r.zone :=
      Option.some.inj (h.time.symm.trans (congrArg (Option.map _) hlast))
    rw [Row.read, htime, hform.read?_write_eq_none _ _ hlegible] at hb
    exact nomatch hb

theorem Row.Holds.of_read (h : row.Holds form mine) (hform : form.Faithful) {offset : Nat}
    {b : Best} (hb : row.read form offset = .ok b) : Readable mine ∧ b.Of mine := by
  have hr := h.readable hform hb
  obtain ⟨b', hb', hof⟩ := h.read hform hr offset
  obtain rfl := Except.ok.inj (hb.symm.trans hb')
  exact ⟨hr, hof⟩

theorem readable_nil : Readable [] := ⟨by decide, fun _ h => nomatch h⟩

section Snippet

variable (hdb : db.Lawful)

include hdb

theorem holds_after (h : db.row? (db.after form results) id = some row) :
    row.Holds form (resultsOf id results) :=
  holds_of_foldRow (hdb.row?_after form results id ▸ h)

theorem row?_after_eq_none_iff (form : Time.Form) :
    db.row? (db.after form results) id = none ↔ resultsOf id results = [] := by
  rw [hdb.row?_after, foldRow_eq_none_iff]

theorem get_after_eq_none_iff (form : Time.Form) (results : List Result) (id : String) :
    db.get form (db.after form results) id = .ok none ↔ resultsOf id results = [] := by
  rw [← row?_after_eq_none_iff hdb form, Database.get]
  cases db.row? (db.after form results) id with
  | none => exact ⟨fun _ => rfl, fun _ => rfl⟩
  | some row =>
      dsimp only
      cases row.read form 0 with
      | ok b => exact ⟨fun h => (nomatch h), fun h => (nomatch h)⟩
      | error fault => exact ⟨fun h => (nomatch h), fun h => (nomatch h)⟩

theorem get_after (hform : form.Faithful) (h : resultsOf id results ≠ [])
    (hr : Readable (resultsOf id results)) :
    ∃ b, db.get form (db.after form results) id = .ok (some b) ∧ b.Of (resultsOf id results) := by
  cases hrow : db.row? (db.after form results) id with
  | none => exact absurd ((row?_after_eq_none_iff hdb form).1 hrow) h
  | some row =>
      obtain ⟨b, hb, hof⟩ := (holds_after hdb hrow).read hform hr 0
      refine ⟨b, ?_, hof⟩
      rw [Database.get, hrow]
      dsimp only
      rw [hb]
      rfl

theorem of_get_after (hform : form.Faithful) {b : Best}
    (h : db.get form (db.after form results) id = .ok (some b)) :
    Readable (resultsOf id results) ∧ b.Of (resultsOf id results) := by
  rw [Database.get] at h
  cases hrow : db.row? (db.after form results) id with
  | none =>
      rw [hrow] at h
      exact nomatch h
  | some row =>
      rw [hrow] at h
      dsimp only at h
      cases hb : row.read form 0 with
      | ok b' =>
          rw [hb] at h
          obtain rfl : b' = b := Option.some.inj (Except.ok.inj h)
          exact (holds_after hdb hrow).of_read hform hb
      | error fault =>
          rw [hb] at h
          exact nomatch h

theorem get_after_error (hform : form.Faithful) (h : ¬ Readable (resultsOf id results)) :
    ∃ fault, db.get form (db.after form results) id = .error fault := by
  cases hget : db.get form (db.after form results) id with
  | error fault => exact ⟨fault, rfl⟩
  | ok found =>
      cases found with
      | none =>
          have hnil := (get_after_eq_none_iff hdb form results id).1 hget
          exact absurd (hnil ▸ readable_nil) h
      | some b => exact absurd (of_get_after hdb hform hget).1 h

theorem get_after_resultsOf (form : Time.Form) (results : List Result) (id : String) :
    db.get form (db.after form results) id =
      db.get form (db.after form (resultsOf id results)) id := by
  have hsame : resultsOf id (resultsOf id results) = resultsOf id results := by
    simp [resultsOf]
  rw [Database.get, Database.get, hdb.row?_after, hdb.row?_after, hsame]

end Snippet

section Snippets

variable {rows : List (String × Best)} (hdb : db.Lawful)

include hdb

theorem all_after (hform : form.Faithful) (h : ∀ id, Readable (resultsOf id results)) :
    ∃ rows, db.all form (db.after form results) = .ok rows := by
  refine readRows fun e he => ?_
  obtain ⟨id?, row⟩ := e
  cases id? with
  | none => exact absurd he (hdb.named_after form results row)
  | some id =>
      have hrow := (hdb.mem_rows_iff _ id row).1 he
      obtain ⟨b, hb, -⟩ := (holds_after hdb hrow).read hform (h id) 1
      exact ⟨id, b, rfl, hb⟩

theorem of_all_after (hform : form.Faithful)
    (h : db.all form (db.after form results) = .ok rows) :
    rows.map Prod.fst = (db.rows (db.after form results)).filterMap Prod.fst ∧
      ∀ e ∈ rows, Readable (resultsOf e.1 results) ∧ e.2.Of (resultsOf e.1 results) := by
  obtain ⟨hids, hrows⟩ := of_readRows h
  refine ⟨?_, fun e he => ?_⟩
  · have hall := congrArg (List.filterMap (fun x : Option String => x)) hids
    simpa [List.filterMap_map, Function.comp_def] using hall.symm
  · obtain ⟨row, hmem, hread⟩ := hrows e he
    exact (holds_after hdb ((hdb.mem_rows_iff _ e.1 row).1 hmem)).of_read hform hread

theorem mem_ids_after : id ∈ (db.rows (db.after form results)).filterMap Prod.fst ↔
    resultsOf id results ≠ [] :=
  (hdb.mem_ids_iff _).trans (not_congr (row?_after_eq_none_iff hdb form))

theorem readable_of_all_after (hform : form.Faithful)
    (h : db.all form (db.after form results) = .ok rows) (id : String) :
    Readable (resultsOf id results) := by
  obtain ⟨hids, hrows⟩ := of_all_after hdb hform h
  by_cases hnil : resultsOf id results = []
  · exact hnil ▸ readable_nil
  · obtain ⟨e, he, rfl⟩ := List.mem_map.1 (hids ▸ (mem_ids_after hdb).2 hnil)
    exact (hrows e he).1

end Snippets

variable {rows : List (String × Best)}

def summaryOf (wpms : List Nat) : Summary :=
  if wpms.isEmpty then ⟨0, 0, 0⟩
  else ⟨wpms.length, mean (wpms.foldl (· + ·) 0) wpms.length, wpms.foldl max 0⟩

theorem summary_eq {t : σ} (h : db.all form t = .ok rows) :
    db.summary form t = .ok (summaryOf (rows.map fun e => e.2.wpm)) := by
  rw [Database.summary, h, summaryOf, List.foldl_map, List.foldl_map, List.length_map]
  cases rows <;> rfl

theorem of_summary {t : σ} {s : Summary} (h : db.summary form t = .ok s) :
    ∃ rows, db.all form t = .ok rows ∧ s = summaryOf (rows.map fun e => e.2.wpm) := by
  obtain ⟨rows, hrows, -⟩ := of_bind_ok h
  exact ⟨rows, hrows, Except.ok.inj (h.symm.trans (summary_eq hrows))⟩

theorem practiced_summaryOf (wpms : List Nat) : (summaryOf wpms).practiced = wpms.length := by
  cases wpms <;> rfl

theorem bestWpm_summaryOf (wpms : List Nat) : (summaryOf wpms).bestWpm = wpms.max?.getD 0 := by
  cases wpms with
  | nil => rfl
  | cons w wpms =>
      have hzero : max 0 w = w := Nat.max_eq_right (Nat.zero_le w)
      simp only [summaryOf, List.isEmpty_cons, Bool.false_eq_true, if_false, List.foldl_cons, hzero]
      rfl

theorem mem_map_of_resultsOf {n : Nat} {f : Result → Nat}
    (h : n ∈ (resultsOf id results).map f) : n ∈ results.map f := by
  obtain ⟨r, hr, rfl⟩ := List.mem_map.1 h
  exact List.mem_map_of_mem (List.mem_filter.1 hr).1

theorem exists_row (hdb : db.Lawful) (hform : form.Faithful) {r : Result}
    (h : db.all form (db.after form results) = .ok rows) (hr : r ∈ results) :
    ∃ b, (r.id, b) ∈ rows ∧ b.Of (resultsOf r.id results) := by
  obtain ⟨hids, hrows⟩ := of_all_after hdb hform h
  have hmem : r ∈ resultsOf r.id results := List.mem_filter.2 ⟨hr, beq_iff_eq.2 rfl⟩
  have hkey : r.id ∈ rows.map Prod.fst :=
    hids ▸ (mem_ids_after hdb).2 (List.ne_nil_of_mem hmem)
  obtain ⟨e, he, hid⟩ := List.mem_map.1 hkey
  exact ⟨e.2, hid ▸ he, hid ▸ (hrows e he).2⟩

theorem max?_rows (hdb : db.Lawful) (hform : form.Faithful)
    (h : db.all form (db.after form results) = .ok rows) :
    (rows.map fun e => e.2.wpm).max? = (results.map fun r => r.wpm.toNat).max? := by
  have hrow (e : String × Best) (he : e ∈ rows) : e.2.wpm ∈ results.map fun r => r.wpm.toNat :=
    mem_map_of_resultsOf
      (List.max?_eq_some_iff.1 ((of_all_after hdb hform h).2 e he).2.wpm).1
  cases hmax : (results.map fun r => r.wpm.toNat).max? with
  | none =>
      rw [List.max?_eq_none_iff, List.map_eq_nil_iff] at hmax
      subst hmax
      rw [List.max?_eq_none_iff, List.map_eq_nil_iff]
      exact List.eq_nil_iff_forall_not_mem.2 fun e he => nomatch hrow e he
  | some m =>
      obtain ⟨hmem, hle⟩ := List.max?_eq_some_iff.1 hmax
      obtain ⟨r, hr, rfl⟩ := List.mem_map.1 hmem
      -- the row of the snippet of a best result is a best row
      obtain ⟨b, hb, hof⟩ := exists_row hdb hform h hr
      have hlow : r.wpm.toNat ≤ b.wpm := (List.max?_eq_some_iff.1 hof.wpm).2 _
        (List.mem_map_of_mem (List.mem_filter.2 ⟨hr, beq_iff_eq.2 rfl⟩))
      have heq : b.wpm = r.wpm.toNat := Nat.le_antisymm (hle _ (hrow _ hb)) hlow
      refine List.max?_eq_some_iff.2 ⟨heq ▸ List.mem_map_of_mem hb, fun n hn => ?_⟩
      obtain ⟨e, he, rfl⟩ := List.mem_map.1 hn
      exact hle _ (hrow e he)

/-- The rows and the summary that are read after the results. -/
structure Listing (db : Database σ) (form : Time.Form) (results : List Result)
    (rows : List (String × Best)) (s : Summary) : Prop where
  increasing : (rows.map Prod.fst).Pairwise fun a b => Text.toUtf8 a < Text.toUtf8 b
  mem_iff (id : String) : id ∈ rows.map Prod.fst ↔ ∃ r ∈ results, r.id = id
  get : ∀ e ∈ rows, db.get form (db.after form results) e.1 = .ok (some e.2)
  practiced : s.practiced = rows.length
  bestWpm : s.bestWpm = (results.map fun r => r.wpm.toNat).max?.getD 0

theorem resultsOf_ne_nil_iff : resultsOf id results ≠ [] ↔ ∃ r ∈ results, r.id = id := by
  rw [resultsOf, Ne, List.filter_eq_nil_iff]
  simp

theorem listing_after (hdb : db.Lawful) (hform : form.Faithful)
    (h : db.all form (db.after form results) = .ok rows) :
    Listing db form results rows (summaryOf (rows.map fun e => e.2.wpm)) := by
  obtain ⟨hids, hrows⟩ := of_all_after hdb hform h
  refine ⟨?_, fun id => ?_, fun e he => ?_, ?_, ?_⟩
  · rw [hids]
    exact hdb.increasing _
  · rw [hids, mem_ids_after hdb, resultsOf_ne_nil_iff]
  · obtain ⟨hr, hof⟩ := hrows e he
    have hne : resultsOf e.1 results ≠ [] :=
      (mem_ids_after hdb).1 (hids ▸ List.mem_map_of_mem he)
    obtain ⟨b, hb, hof'⟩ := get_after hdb hform hne hr
    rw [hb, hof'.unique hof]
  · rw [practiced_summaryOf, List.length_map]
  · rw [bestWpm_summaryOf, max?_rows hdb hform h]

/-- What is read of one database and of another is the same but for the times. -/
structure Alike (db : Database σ) (form : Time.Form) (t u : σ) : Prop where
  get_none (id : String) : db.get form t id = .ok none ↔ db.get form u id = .ok none
  get (id : String) (b c : Best) : db.get form t id = .ok (some b) →
    db.get form u id = .ok (some c) → b.untimed = c.untimed
  all (rows rows' : List (String × Best)) : db.all form t = .ok rows → db.all form u = .ok rows' →
    (rows.map fun e => (e.1, e.2.untimed)) = rows'.map fun e => (e.1, e.2.untimed)
  summary (s s' : Summary) : db.summary form t = .ok s → db.summary form u = .ok s' → s = s'

theorem map_eq_of_keys {β : Type} {f : String × Best → β} {rows' : List (String × Best)}
    (hkeys : rows.map Prod.fst = rows'.map Prod.fst)
    (h : ∀ e ∈ rows, ∀ e' ∈ rows', e.1 = e'.1 → f e = f e') : rows.map f = rows'.map f := by
  induction rows generalizing rows' with
  | nil => rw [List.map_eq_nil_iff.1 hkeys.symm]
  | cons e rows ih =>
      cases rows' with
      | nil => exact nomatch hkeys
      | cons e' rows' =>
          obtain ⟨hkey, hkeys⟩ := List.cons.inj hkeys
          rw [List.map_cons, List.map_cons, h e List.mem_cons_self e' List.mem_cons_self hkey,
            ih hkeys fun x hx y hy => h x (List.mem_cons_of_mem _ hx) y (List.mem_cons_of_mem _ hy)]

theorem alike_after (hdb : db.Lawful) (hform : form.Faithful) {reordered : List Result}
    (hperm : results.Perm reordered) :
    Alike db form (db.after form results) (db.after form reordered) := by
  have hmine (id : String) : (resultsOf id results).Perm (resultsOf id reordered) := hperm.filter _
  have hnil (id : String) : resultsOf id results = [] ↔ resultsOf id reordered = [] := by
    rw [← List.length_eq_zero_iff, (hmine id).length_eq, List.length_eq_zero_iff]
  have hall (rows rows' : List (String × Best))
      (h : db.all form (db.after form results) = .ok rows)
      (h' : db.all form (db.after form reordered) = .ok rows') :
      (rows.map fun e => (e.1, e.2.untimed)) = rows'.map fun e => (e.1, e.2.untimed) := by
    obtain ⟨hids, hrows⟩ := of_all_after hdb hform h
    obtain ⟨hids', hrows'⟩ := of_all_after hdb hform h'
    refine map_eq_of_keys ?_ fun e he e' he' hid => ?_
    · rw [hids, hids']
      refine hdb.ids_eq fun id => not_congr ?_
      rw [row?_after_eq_none_iff hdb form, row?_after_eq_none_iff hdb form, hnil]
    · rw [hid, ((hrows e he).2).untimed_eq (hrows' e' he').2 (hid ▸ hmine e.1)]
  refine ⟨fun id => ?_, fun id b c hb hc => ?_, hall, fun s s' hs hs' => ?_⟩
  · rw [get_after_eq_none_iff hdb, get_after_eq_none_iff hdb, hnil]
  · exact (of_get_after hdb hform hb).2.untimed_eq (of_get_after hdb hform hc).2 (hmine id)
  · obtain ⟨rows, hrows, rfl⟩ := of_summary hs
    obtain ⟨rows', hrows', rfl⟩ := of_summary hs'
    have hwpm := congrArg (List.map fun e => e.2.1) (hall rows rows' hrows hrows')
    rw [List.map_map, List.map_map] at hwpm
    exact congrArg summaryOf hwpm

/-- What is read after the results is their fold. A snippet cannot be read whose last result has a
time that cannot be read, or that has too many results. -/
theorem table_after (hdb : db.Lawful) (hform : form.Faithful) (results : List Result) :
    (∀ id, db.get form (db.after form results) id = .ok none ↔ ¬ ∃ r ∈ results, r.id = id) ∧
    (∀ id, (∃ r ∈ results, r.id = id) → Readable (resultsOf id results) →
      ∃ b, db.get form (db.after form results) id = .ok (some b) ∧ b.Of (resultsOf id results) ∧
        ∀ r ∈ (resultsOf id results).getLast?, r.time.Sound → r.zone % 60 = 0 →
          b.lastPracticed = r.time) ∧
    (∀ id, ¬ Readable (resultsOf id results) →
      ∃ fault, db.get form (db.after form results) id = .error fault) ∧
    ((∀ id, Readable (resultsOf id results)) → ∃ rows s,
      db.all form (db.after form results) = .ok rows ∧
      db.summary form (db.after form results) = .ok s ∧ Listing db form results rows s) ∧
    ((∃ id, ¬ Readable (resultsOf id results)) →
      (∃ fault, db.all form (db.after form results) = .error fault) ∧
      ∃ fault, db.summary form (db.after form results) = .error fault) ∧
    (∀ reordered, results.Perm reordered →
      Alike db form (db.after form results) (db.after form reordered)) ∧
    ∀ id, db.get form (db.after form results) id =
      db.get form (db.after form (resultsOf id results)) id := by
  refine ⟨fun id => ?_, fun id hid hr => ?_, fun id => get_after_error hdb hform, fun hr => ?_,
    fun ⟨id, hid⟩ => ⟨?_, ?_⟩, fun _ => alike_after hdb hform,
    get_after_resultsOf hdb form results⟩
  · rw [get_after_eq_none_iff hdb, ← resultsOf_ne_nil_iff]
    exact Decidable.not_not.symm
  · obtain ⟨b, hb, hof⟩ := get_after hdb hform (resultsOf_ne_nil_iff.2 hid) hr
    exact ⟨b, hb, hof, fun r hlast => hof.lastPracticed_eq hlast⟩
  · obtain ⟨rows, hrows⟩ := all_after hdb hform hr
    exact ⟨rows, _, hrows, summary_eq hrows, listing_after hdb hform hrows⟩
  · cases hall : db.all form (db.after form results) with
    | error fault => exact ⟨fault, rfl⟩
    | ok rows => exact absurd (readable_of_all_after hdb hform hall id) hid
  · cases hsummary : db.summary form (db.after form results) with
    | error fault => exact ⟨fault, rfl⟩
    | ok s =>
        obtain ⟨rows, hrows, -⟩ := of_summary hsummary
        exact absurd (readable_of_all_after hdb hform hrows id) hid

/-- Two results for one snippet and one for another, not in the order of their times. -/
def three : List Result := [⟨"js-a", 50, 90, ⟨1000, 0⟩, 0⟩, ⟨"a", 30, 100, ⟨-5, 500⟩, -9000⟩,
  ⟨"js-a", 40, 99, ⟨500, 0⟩, 3600⟩]

theorem table_after_three :
    (∃ b, (Table.after three).get "js-a" = .ok (some b) ∧ b.Of (resultsOf "js-a" three) ∧
      b.lastPracticed = ⟨500, 0⟩) ∧
    (∃ rows s, (Table.after three).all = .ok rows ∧ (Table.after three).summary = .ok s ∧
      Listing Table.database Time.rfc3339 three rows s) ∧
    Alike Table.database Time.rfc3339 (Table.after three) (Table.after three.reverse) := by
  have hlegible : ∀ r ∈ three, r.time.Legible r.zone := by decide
  have hreadable (id : String) : Readable (resultsOf id three) := by
    refine ⟨Nat.lt_of_le_of_lt (List.length_filter_le ..) (by decide), fun r hr => ?_⟩
    exact hlegible r (List.mem_filter.1 (List.mem_of_getLast? hr)).1
  obtain ⟨-, hget, -, hlisting, -, halike, -⟩ :=
    table_after Table.lawful_database Time.faithful_rfc3339 three
  obtain ⟨b, hb, hof, htime⟩ := hget "js-a" ⟨_, List.mem_cons_self, rfl⟩ (hreadable _)
  exact ⟨⟨b, hb, hof, htime _ rfl (.inl (by decide)) (by decide)⟩, hlisting hreadable,
    halike _ three.reverse_perm.symm⟩

/-- A result in the year 10000. -/
def late : Result := ⟨"a", 1, 1, ⟨253402300800, 0⟩, 0⟩

/-- The row of a late result is kept and cannot be read. -/
theorem get_after_late : ¬ ∀ (results : List Result) (id : String), (∃ r ∈ results, r.id = id) →
    ∃ b, (Table.after results).get id = .ok (some b) ∧ b.Of (resultsOf id results) ∧
      (resultsOf id results).getLast?.map Result.time = some b.lastPracticed := by
  intro h
  obtain ⟨b, hb, -⟩ := h [late] "a" ⟨late, List.mem_singleton_self _, rfl⟩
  have hget : (Table.after [late]).get "a" = .error (.wrongKind .text 3 "last_practiced") := by
    rfl
  exact nomatch hget.symm.trans hb

end TypingTrainer.Stats
