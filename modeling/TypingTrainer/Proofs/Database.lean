import TypingTrainer.Proofs.ByteOrder
import TypingTrainer.Proofs.Decoding
import TypingTrainer.Proofs.Entries
import TypingTrainer.Stats.Table

namespace TypingTrainer.Stats

open Std Json

structure Result where
  id : String
  wpm : UInt32
  accuracy : UInt32
  time : Moment
  zone : Int

def resultsOf (id : String) (results : List Result) : List Result :=
  results.filter fun r => r.id == id

namespace Database

variable {σ : Type} {db : Database σ} {form : Time.Form}

/-- What is documented of folding a result into a row and of looking rows up. -/
structure Lawful (db : Database σ) : Prop where
  row?_empty (id : String) : db.row? db.empty id = none
  row?_upsert (t : σ) (id : String) (wpm accuracy : Nat) (time other : String) :
    db.row? (db.upsert t id wpm accuracy time) other =
      if id = other then some (Row.fold (db.row? t id) wpm accuracy time) else db.row? t other
  rows_empty : db.rows db.empty = []
  mem_rows_iff (t : σ) (id : String) (row : Row) :
    (some id, row) ∈ db.rows t ↔ db.row? t id = some row
  nameless_upsert (t : σ) (id : String) (wpm accuracy : Nat) (time : String) (row : Row) :
    (none, row) ∈ db.rows (db.upsert t id wpm accuracy time) ↔ (none, row) ∈ db.rows t
  increasing (t : σ) :
    ((db.rows t).filterMap Prod.fst).Pairwise fun a b => Text.toUtf8 a < Text.toUtf8 b

def add (db : Database σ) (form : Time.Form) (t : σ) (r : Result) : σ :=
  db.record form t r.id r.wpm.toNat r.accuracy.toNat r.time r.zone

/-- What the results make of a database without rows. -/
def after (db : Database σ) (form : Time.Form) (results : List Result) : σ :=
  results.foldl (db.add form) db.empty

end Database

def Row.add (form : Time.Form) (row? : Option Row) (r : Result) : Row :=
  Row.fold row? r.wpm.toNat r.accuracy.toNat (form.write r.time r.zone)

def foldRow (form : Time.Form) (row? : Option Row) (results : List Result) : Option Row :=
  results.foldl (fun row? r => some (Row.add form row? r)) row?

namespace Database.Lawful

variable {σ : Type} {db : Database σ} {form : Time.Form} {id : String}

theorem row?_add (hdb : db.Lawful) (form : Time.Form) (t : σ) (r : Result) (id : String) :
    db.row? (db.add form t r) id =
      if r.id = id then some (Row.add form (db.row? t id) r) else db.row? t id := by
  rw [add, record, hdb.row?_upsert]
  by_cases hid : r.id = id
  · rw [if_pos hid, if_pos hid, hid]
    rfl
  · rw [if_neg hid, if_neg hid]

theorem row?_foldl_add (hdb : db.Lawful) (form : Time.Form) (t : σ) (results : List Result)
    (id : String) :
    db.row? (results.foldl (db.add form) t) id =
      foldRow form (db.row? t id) (resultsOf id results) := by
  induction results generalizing t with
  | nil => rfl
  | cons r results ih =>
      rw [List.foldl_cons, ih, hdb.row?_add]
      by_cases hid : r.id = id
      · have hcons : resultsOf id (r :: results) = r :: resultsOf id results :=
          List.filter_cons_of_pos (beq_iff_eq.2 hid)
        rw [if_pos hid, hcons]
        rfl
      · have hcons : resultsOf id (r :: results) = resultsOf id results :=
          List.filter_cons_of_neg (by simp [hid])
        rw [if_neg hid, hcons]

theorem row?_after (hdb : db.Lawful) (form : Time.Form) (results : List Result) (id : String) :
    db.row? (db.after form results) id = foldRow form none (resultsOf id results) := by
  rw [after, hdb.row?_foldl_add, hdb.row?_empty]

theorem named_after (hdb : db.Lawful) (form : Time.Form) (results : List Result) (row : Row) :
    (none, row) ∉ db.rows (db.after form results) := by
  have hfold (t : σ) : (none, row) ∈ db.rows (results.foldl (db.add form) t) ↔
      (none, row) ∈ db.rows t := by
    induction results generalizing t with
    | nil => rfl
    | cons r results ih => exact (ih (db.add form t r)).trans (hdb.nameless_upsert ..)
  rw [after, hfold, hdb.rows_empty]
  exact List.not_mem_nil

theorem mem_ids_iff (hdb : db.Lawful) (t : σ) :
    id ∈ (db.rows t).filterMap Prod.fst ↔ db.row? t id ≠ none := by
  rw [List.mem_filterMap, Option.ne_none_iff_exists']
  constructor
  · rintro ⟨⟨_, row⟩, hmem, rfl⟩
    exact ⟨row, (hdb.mem_rows_iff t id row).1 hmem⟩
  · rintro ⟨row, hrow⟩
    exact ⟨(some id, row), (hdb.mem_rows_iff t id row).2 hrow, rfl⟩

theorem ids_eq (hdb : db.Lawful) {t u : σ}
    (h : ∀ id, db.row? t id ≠ none ↔ db.row? u id ≠ none) :
    (db.rows t).filterMap Prod.fst = (db.rows u).filterMap Prod.fst := by
  have hnodup (t : σ) : ((db.rows t).filterMap Prod.fst).Nodup := by
    refine (hdb.increasing t).imp ?_
    rintro a _ hlt rfl
    exact List.lt_irrefl _ hlt
  have hperm := (List.perm_ext_iff_of_nodup (hnodup t) (hnodup u)).2 fun id =>
    (hdb.mem_ids_iff t).trans ((h id).trans (hdb.mem_ids_iff u).symm)
  refine hperm.eq_of_pairwise (fun a b _ _ hab hba => ?_) (hdb.increasing t) (hdb.increasing u)
  exact absurd (List.lt_trans hab hba) (List.lt_irrefl _)

end Database.Lawful

section Rows

variable {form : Time.Form} {l : List (Option String × Row)} {rows : List (String × Best)}

theorem readRows (h : ∀ e ∈ l, ∃ id b, e.1 = some id ∧ e.2.read form 1 = .ok b) :
    ∃ rows, (l.mapM fun (id?, r) => do return (← readId id?, ← r.read form 1) : Except Fault _) =
      .ok rows := by
  induction l with
  | nil => exact ⟨[], rfl⟩
  | cons e l ih =>
      obtain ⟨id, b, hid, hb⟩ := h e List.mem_cons_self
      obtain ⟨rows, hrows⟩ := ih fun e he => h e (List.mem_cons_of_mem _ he)
      refine ⟨(id, b) :: rows, ?_⟩
      rw [List.mapM_cons, hrows]
      simp only [hid, hb]
      rfl

theorem of_readRows (h : (l.mapM fun (id?, r) => do
      return (← readId id?, ← r.read form 1) : Except Fault _) = .ok rows) :
    l.map Prod.fst = rows.map (fun e => some e.1) ∧
      ∀ e ∈ rows, ∃ row, (some e.1, row) ∈ l ∧ row.read form 1 = .ok e.2 := by
  induction l generalizing rows with
  | nil =>
      obtain rfl := Except.ok.inj h
      exact ⟨rfl, fun e he => nomatch he⟩
  | cons e l ih =>
      rw [List.mapM_cons] at h
      obtain ⟨first, hfirst, h⟩ := of_bind_ok h
      obtain ⟨rest, hrest, h⟩ := of_bind_ok h
      obtain ⟨id, hid, hfirst⟩ := of_bind_ok hfirst
      obtain ⟨b, hb, hfirst⟩ := of_bind_ok hfirst
      obtain rfl : (id, b) = first := Except.ok.inj hfirst
      obtain rfl : (id, b) :: rest = rows := Except.ok.inj h
      obtain ⟨id?, row⟩ := e
      cases id? with
      | none => exact nomatch hid
      | some id' =>
          obtain rfl : id' = id := Except.ok.inj hid
          obtain ⟨hids, hrows⟩ := ih hrest
          refine ⟨congrArg (some id' :: ·) hids,
            List.forall_mem_cons.2 ⟨⟨row, List.mem_cons_self, hb⟩, fun x hx => ?_⟩⟩
          obtain ⟨row', hmem, hread⟩ := hrows x hx
          exact ⟨row', List.mem_cons_of_mem _ hmem, hread⟩

end Rows

namespace Table

theorem mem_rows_some_iff {t : Table} {id : String} {row : Row} :
    (some id, row) ∈ t.rows ↔ (id, row) ∈ t.named.entries := by
  simp [rows]

theorem mem_rows_none_iff {t : Table} {row : Row} :
    (none, row) ∈ t.rows ↔ row ∈ t.nameless := by
  simp [rows]

theorem filterMap_rows (t : Table) : t.rows.filterMap Prod.fst = t.named.keys := by
  have hnameless :
      (t.nameless.map fun r => ((none : Option String), r)).filterMap Prod.fst = [] := by
    simp
  rw [rows, List.filterMap_append, hnameless, List.nil_append, List.filterMap_map,
    SortedMap.keys]
  exact congrFun List.filterMap_eq_map t.named.entries

theorem lawful_database : database.Lawful where
  row?_empty _ := rfl
  row?_upsert t id wpm accuracy time other := by
    refine (SortedMap.get?_insert ..).trans ?_
    by_cases hid : id = other
    · rw [if_pos hid, if_pos (LawfulEqCmp.compare_eq_iff_eq.2 hid.symm)]
      rfl
    · rw [if_neg hid, if_neg fun heq => hid (LawfulEqCmp.compare_eq_iff_eq.1 heq).symm]
      rfl
  rows_empty := rfl
  mem_rows_iff t id row := mem_rows_some_iff.trans SortedMap.mem_entries_iff
  nameless_upsert t id wpm accuracy time row := by
    change (none, row) ∈ (t.upsert id wpm accuracy time).rows ↔ (none, row) ∈ t.rows
    rw [mem_rows_none_iff, mem_rows_none_iff]
    rfl
  increasing t := by
    refine (filterMap_rows t).symm ▸ ?_
    -- the keys are kept in the order of their characters
    exact (SortedMap.pairwise_keys _).imp Text.toUtf8_lt

def after (results : List Result) : Table := database.after Time.rfc3339 results

end Table

end TypingTrainer.Stats
