import TypingTrainer.Proofs.Statistics
import TypingTrainer.Snippet.Info

namespace TypingTrainer

/-- The folder `e` is `d` with the stem `s` up to one of its dashes, and `t` is what follows it. -/
def Shifts (d s e t : String) : Prop := ∃ m, e = d ++ "-" ++ m ∧ s = m ++ "-" ++ t

/-- Two folders and stems read the same once a dash joins them. -/
def Clash (d s e t : String) : Prop := d = e ∧ s = t ∨ Shifts d s e t ∨ Shifts e t d s

variable {d s e t : String}

theorem toList_dashed (d s : String) : (d ++ "-" ++ s).toList = d.toList ++ '-' :: s.toList := by
  simp [String.toList_append]

theorem shifts_iff : Shifts d s e t ↔
    ∃ m, e.toList = d.toList ++ '-' :: m ∧ s.toList = m ++ '-' :: t.toList := by
  constructor
  · rintro ⟨m, rfl, rfl⟩
    exact ⟨m.toList, toList_dashed d m, toList_dashed m t⟩
  · rintro ⟨m, he, hs⟩
    refine ⟨String.ofList m, String.toList_inj.1 ?_, String.toList_inj.1 ?_⟩
    · rw [toList_dashed, String.toList_ofList, he]
    · rw [toList_dashed, String.toList_ofList, hs]

theorem exists_dash_iff {a b c x : List Char} :
    (∃ m, c = a ++ m ∧ '-' :: b = m ++ '-' :: x) ↔
      a = c ∧ b = x ∨ ∃ m, c = a ++ '-' :: m ∧ b = m ++ '-' :: x := by
  constructor
  · rintro ⟨m, rfl, h⟩
    cases m with
    | nil => exact .inl ⟨(List.append_nil a).symm, List.tail_eq_of_cons_eq h⟩
    | cons y m =>
        obtain ⟨rfl, rfl⟩ := List.cons.inj h
        exact .inr ⟨m, rfl, rfl⟩
  · rintro (⟨rfl, rfl⟩ | ⟨m, rfl, rfl⟩)
    · exact ⟨[], (List.append_nil a).symm, rfl⟩
    · exact ⟨'-' :: m, rfl, rfl⟩

theorem dashed_eq_iff : d ++ "-" ++ s = e ++ "-" ++ t ↔ Clash d s e t := by
  rw [← String.toList_inj, toList_dashed, toList_dashed, List.append_eq_append_iff,
    exists_dash_iff, exists_dash_iff, Clash, shifts_iff, shifts_iff, String.toList_inj,
    String.toList_inj, String.toList_inj, String.toList_inj, eq_comm (a := e), eq_comm (a := t)]
  exact or_or_distrib_left.symm

theorem Shifts.dash_mem (h : Shifts d s e t) : '-' ∈ e.toList ∧ '-' ∈ s.toList := by
  obtain ⟨m, he, hs⟩ := shifts_iff.1 h
  rw [he, hs]
  exact ⟨List.mem_append_right _ List.mem_cons_self, List.mem_append_right _ List.mem_cons_self⟩

theorem clash_iff_of_notMem (he : '-' ∉ e.toList) (ht : '-' ∉ t.toList) :
    Clash d s e t ↔ d = e ∧ s = t := by
  constructor
  · rintro (h | h | h)
    · exact h
    · exact absurd h.dash_mem.1 he
    · exact absurd h.dash_mem.2 ht
  · exact .inl

def Path.Names (p d s : String) : Prop := Path.parentName? p = some d ∧ Path.stem? p = some s

instance (p d s : String) : Decidable (Path.Names p d s) := inferInstanceAs (Decidable (_ ∧ _))

theorem Language.dash_notMem_name (l : Language) : '-' ∉ l.name.toList := by
  cases l <;> decide

namespace SnippetInfo

open Stats (Table resultsOf)

variable {a b : SnippetInfo} {i j p q : String}

theorem ofPath_id (h : Path.Names p d s) (l : Language) :
    (ofPath p l).id = some (d ++ "-" ++ s) := by
  simp only [ofPath, h.1, h.2, Option.getD_some]

theorem embedded_id (l : Language) : (embedded l).id = some (l.name ++ "-" ++ "default") := by
  rw [String.append_assoc]
  rfl

/-- What is read of either snippet is read of the other too, whatever is recorded. -/
def Merged (a b : SnippetInfo) : Prop :=
  ∀ (results : List Stats.Result) (i j : String), a.id = some i → b.id = some j →
    (Table.after results).get i = (Table.after results).get j

/-- What is read of `b` is the same without the results for `a`. -/
def Spares (a b : SnippetInfo) : Prop :=
  ∀ (results : List Stats.Result) (j : String), b.id = some j →
    (Table.after results).get j = (Table.after (results.filter fun r => some r.id ≠ a.id)).get j

def KeptApart (a b : SnippetInfo) : Prop := Spares a b ∧ Spares b a

theorem exists_result (id : String) : ∃ r : Stats.Result, r.id = id :=
  ⟨⟨id, 0, 0, ⟨0, 0⟩, 0⟩, rfl⟩

theorem get_after_eq_none_iff (results : List Stats.Result) (j : String) :
    (Table.after results).get j = .ok none ↔ resultsOf j results = [] :=
  Stats.get_after_eq_none_iff Table.lawful_database Time.rfc3339 results j

theorem get_after_single_eq_none_iff {r : Stats.Result} :
    (Table.after [r]).get j = .ok none ↔ r.id ≠ j := by
  rw [get_after_eq_none_iff, resultsOf, List.filter_eq_nil_iff]
  simp

theorem merged_iff (ha : a.id = some i) (hb : b.id = some j) : Merged a b ↔ i = j := by
  constructor
  · intro h
    obtain ⟨r, rfl⟩ := exists_result i
    refine Decidable.of_not_not fun hne => ?_
    have hrow := h [r] r.id j ha hb
    rw [get_after_single_eq_none_iff.2 hne, get_after_single_eq_none_iff] at hrow
    exact hrow rfl
  · rintro rfl results i' j' hi hj
    rw [Option.some.inj (hi.symm.trans ha), Option.some.inj (hj.symm.trans hb)]

theorem spares_iff (ha : a.id = some i) (hb : b.id = some j) : Spares a b ↔ i ≠ j := by
  constructor
  · rintro h rfl
    obtain ⟨r, rfl⟩ := exists_result i
    have hnone : [r].filter (fun r => some r.id ≠ a.id) = [] := by simp [ha]
    have hrow := h [r] r.id hb
    rw [hnone, (get_after_eq_none_iff [] r.id).2 rfl, get_after_single_eq_none_iff] at hrow
    exact hrow rfl
  · intro hne results j' hj
    obtain rfl : j = j' := Option.some.inj (hb.symm.trans hj)
    have hsame : resultsOf j (results.filter fun r => some r.id ≠ a.id) = resultsOf j results := by
      rw [resultsOf, resultsOf, List.filter_filter]
      refine List.filter_congr fun r _ => ?_
      rw [ha, Bool.and_eq_left_iff_imp]
      intro hr
      rw [decide_eq_true_iff, beq_iff_eq.1 hr]
      exact fun heq => hne (Option.some.inj heq).symm
    have hget (results : List Stats.Result) :
        (Table.after results).get j = (Table.after (resultsOf j results)).get j :=
      Stats.get_after_resultsOf Table.lawful_database Time.rfc3339 results j
    rw [hget, ← hsame, ← hget]

theorem keptApart_iff (ha : a.id = some i) (hb : b.id = some j) : KeptApart a b ↔ i ≠ j := by
  rw [KeptApart, spares_iff ha hb, spares_iff hb ha]
  exact ⟨fun h => h.1, fun h => ⟨h, h.symm⟩⟩

structure SharesRowIff (a b : SnippetInfo) (same : Prop) : Prop where
  id : a.id = b.id ↔ same
  merged : Merged a b ↔ same
  apart : KeptApart a b ↔ ¬ same

theorem sharesRowIff {same : Prop} (ha : a.id = some i) (hb : b.id = some j) (h : i = j ↔ same) :
    SharesRowIff a b same where
  id := by rw [ha, hb, Option.some_inj, h]
  merged := by rw [merged_iff ha hb, h]
  apart := by rw [keptApart_iff ha hb, Ne, h]

/-- Files in folders share a row just if their names clash, and one shares that of an embedded
snippet just if it is called `default` in a folder that is called like the language. -/
theorem ofPath_sharesRow (hp : Path.Names p d s) (hq : Path.Names q e t) (l m : Language) :
    SharesRowIff (ofPath p l) (ofPath q m) (Clash d s e t) ∧
      ∀ k : Language, SharesRowIff (ofPath p l) (embedded k) (d = k.name ∧ s = "default") := by
  refine ⟨sharesRowIff (ofPath_id hp l) (ofPath_id hq m) dashed_eq_iff, fun k => ?_⟩
  refine sharesRowIff (ofPath_id hp l) (embedded_id k) ?_
  rw [dashed_eq_iff]
  exact clash_iff_of_notMem k.dash_notMem_name (by decide)

/-- The dash of a folder against that of a stem. -/
theorem ofPath_sharesRow_dashes :
    let a := ofPath "a-b/c.json" .python
    let b := ofPath "a/b-c.json" .tsx
    a.id = b.id ∧ Merged a b ∧ KeptApart a (embedded .python) := by
  intro a b
  have hclash : Clash "a-b" "c" "a" "b-c" := .inr (.inr ⟨"b", by decide, by decide⟩)
  obtain ⟨hab, hembedded⟩ := ofPath_sharesRow (p := "a-b/c.json") (q := "a/b-c.json")
    (d := "a-b") (s := "c") (e := "a") (t := "b-c") (by decide +kernel) (by decide +kernel)
    .python .tsx
  exact ⟨hab.id.2 hclash, hab.merged.2 hclash, (hembedded .python).apart.2 (by decide)⟩

/-- That folder or stem differ does not keep two snippets apart, nor one from an embedded one. -/
theorem not_apart_of_dashes :
    ¬ (∀ p q d s e t, Path.Names p d s → Path.Names q e t → (d, s) ≠ (e, t) →
      ∀ l m, (ofPath p l).id ≠ (ofPath q m).id) ∧
    ¬ (∀ p q d s e t, Path.Names p d s → Path.Names q e t → (d, s) ≠ (e, t) →
      ∀ l m, KeptApart (ofPath p l) (ofPath q m)) ∧
    ¬ (∀ p d s, Path.Names p d s → ∀ l k, (ofPath p l).id ≠ (embedded k).id) := by
  have hp : Path.Names "a-b/c.json" "a-b" "c" := by decide +kernel
  have hq : Path.Names "a/b-c.json" "a" "b-c" := by decide +kernel
  have hne : ("a-b", "c") ≠ ("a", "b-c") := by decide
  have hid : "a-b" ++ "-" ++ "c" = "a" ++ "-" ++ "b-c" := by decide
  refine ⟨fun h => ?_, fun h => ?_, fun h => ?_⟩
  · refine h _ _ _ _ _ _ hp hq hne .python .python ?_
    rw [ofPath_id hp, ofPath_id hq, hid]
  · have hapart := h _ _ _ _ _ _ hp hq hne .python .python
    exact (keptApart_iff (ofPath_id hp _) (ofPath_id hq _)).1 hapart hid
  · have hdefault : Path.Names "python/default.json" "python" "default" := by decide +kernel
    refine h _ _ _ hdefault .python .python ?_
    rw [ofPath_id hdefault, embedded_id]
    rfl

end SnippetInfo

end TypingTrainer
