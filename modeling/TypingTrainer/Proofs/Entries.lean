import TypingTrainer.SortedMap

namespace TypingTrainer

open Std

namespace SortedMap

variable {κ α : Type} [Ord κ] {k : κ} {v : α} {e : κ × α} {l : List (κ × α)}

theorem insertEntry_of_lt [OrientedOrd κ] (h : ∀ e ∈ l, compare e.1 k = .lt) :
    insertEntry k v l = l ++ [(k, v)] := by
  induction l with
  | nil => rfl
  | cons e l ih =>
      have hgt : compare k e.1 = .gt := OrientedCmp.gt_iff_lt.2 (h e List.mem_cons_self)
      rw [insertEntry, hgt]
      dsimp only
      rw [ih fun e he => h e (List.mem_cons_of_mem _ he), List.cons_append]

theorem entries_foldl_insert [TransOrd κ] (m : SortedMap κ α)
    (h : (m.entries ++ l).Pairwise fun a b => compare a.1 b.1 = .lt) :
    (l.foldl (fun m e => m.insert e.1 e.2) m).entries = m.entries ++ l := by
  induction l generalizing m with
  | nil => rw [List.foldl_nil, List.append_nil]
  | cons e l ih =>
      have hlt : ∀ x ∈ m.entries, compare x.1 e.1 = .lt := fun x hx =>
        (List.pairwise_append.1 h).2.2 x hx e List.mem_cons_self
      have hentries : (m.insert e.1 e.2).entries = m.entries ++ [e] := insertEntry_of_lt hlt
      rw [List.foldl_cons, ih _ (by rwa [hentries, List.append_assoc]), hentries,
        List.append_assoc]
      rfl

theorem ofList_entries [TransOrd κ] (m : SortedMap κ α) : ofList m.entries = m :=
  SortedMap.ext (entries_foldl_insert ∅ m.increasing)

theorem mem_foldl_insert [TransOrd κ] (m : SortedMap κ α)
    (h : e ∈ (l.foldl (fun m e => m.insert e.1 e.2) m).entries) : e ∈ m.entries ∨ e ∈ l := by
  induction l generalizing m with
  | nil => exact .inl h
  | cons d l ih =>
      rcases ih (m.insert d.1 d.2) h with hm | hl
      · rcases mem_of_mem_insertEntry hm with rfl | hm
        · exact .inr List.mem_cons_self
        · exact .inl hm
      · exact .inr (List.mem_cons_of_mem _ hl)

theorem mem_ofList [TransOrd κ] (h : e ∈ (ofList l).entries) : e ∈ l :=
  (mem_foldl_insert ∅ h).resolve_left List.not_mem_nil

/-- Of the entries with one key the last counts. -/
theorem get?_foldl_insert [TransOrd κ] (m : SortedMap κ α) (l : List (κ × α)) (k : κ) :
    (l.foldl (fun m e => m.insert e.1 e.2) m).get? k =
      ((l.reverse.find? fun e => compare k e.1 == .eq).map Prod.snd).or (m.get? k) := by
  induction l generalizing m with
  | nil => rfl
  | cons e l ih =>
      rw [List.foldl_cons, ih, get?_insert, List.reverse_cons, List.find?_append]
      cases l.reverse.find? fun e => compare k e.1 == .eq with
      | some d => rfl
      | none => by_cases he : compare k e.1 = .eq <;> simp [he]

theorem get?_ofList [TransOrd κ] (l : List (κ × α)) (k : κ) :
    (ofList l).get? k = (l.reverse.find? fun e => compare k e.1 == .eq).map Prod.snd := by
  rw [ofList, get?_foldl_insert]
  exact Option.or_none

theorem get?_eq_none_iff [LawfulEqOrd κ] {m : SortedMap κ α} : m.get? k = none ↔ k ∉ m.keys := by
  rw [get?, Option.map_eq_none_iff, List.find?_eq_none, keys, List.mem_map]
  constructor
  · rintro h ⟨e, he, rfl⟩
    exact h e he (beq_iff_eq.2 ReflCmp.compare_self)
  · intro h e he heq
    exact h ⟨e, he, (LawfulEqOrd.eq_of_compare (beq_iff_eq.1 heq)).symm⟩

theorem find?_of_mem [TransOrd κ] (hl : l.Pairwise fun a b => compare a.1 b.1 = .lt)
    (h : (k, v) ∈ l) : l.find? (fun e => compare k e.1 == .eq) = some (k, v) := by
  induction l with
  | nil => exact nomatch h
  | cons e l ih =>
      obtain ⟨hlt, hl⟩ := List.pairwise_cons.1 hl
      rcases List.mem_cons.1 h with rfl | h
      · exact List.find?_cons_of_pos (beq_iff_eq.2 ReflCmp.compare_self)
      · have hgt : compare k e.1 = .gt := OrientedCmp.gt_iff_lt.2 (hlt _ h)
        rw [List.find?_cons_of_neg (by simp [hgt])]
        exact ih hl h

theorem get?_of_mem [TransOrd κ] {m : SortedMap κ α} (h : (k, v) ∈ m.entries) :
    m.get? k = some v := by
  rw [get?, find?_of_mem m.increasing h]
  rfl

theorem mem_entries_iff [TransOrd κ] [LawfulEqOrd κ] {m : SortedMap κ α} :
    (k, v) ∈ m.entries ↔ m.get? k = some v := by
  refine ⟨get?_of_mem, fun h => ?_⟩
  obtain ⟨e, he, rfl⟩ := Option.map_eq_some_iff.1 h
  have hfound : (compare k e.1 == .eq) = true :=
    (List.find?_eq_some_iff_append.1 he).1
  obtain rfl : k = e.1 := LawfulEqOrd.eq_of_compare (beq_iff_eq.1 hfound)
  exact List.mem_of_find?_eq_some he

theorem pairwise_keys (m : SortedMap κ α) : m.keys.Pairwise fun a b => compare a b = .lt :=
  List.pairwise_map.2 m.increasing

theorem nodup_keys [TransOrd κ] (m : SortedMap κ α) : m.keys.Nodup := by
  refine m.pairwise_keys.imp ?_
  rintro a _ hlt rfl
  have hself : compare a a = .eq := ReflCmp.compare_self
  exact nomatch hself.symm.trans hlt

theorem keys_eq [TransOrd κ] {β : Type} {m : SortedMap κ α} {n : SortedMap κ β}
    (h : ∀ k, k ∈ m.keys ↔ k ∈ n.keys) : m.keys = n.keys := by
  have hperm := (List.perm_ext_iff_of_nodup m.nodup_keys n.nodup_keys).2 h
  refine hperm.eq_of_pairwise (fun a b _ _ hab hba => ?_) m.pairwise_keys n.pairwise_keys
  exact nomatch (OrientedCmp.gt_iff_lt.2 hab).symm.trans hba

theorem keys_ofPositions (l : List α) : (ofPositions l).keys = List.range l.length := by
  rw [keys, ofPositions, List.map_map, List.range_eq_range']
  exact List.zipIdx_map_snd 0 l

theorem get?_ofPositions (l : List α) (i : Nat) : (ofPositions l).get? i = l[i]? := by
  cases hi : l[i]? with
  | none =>
      rw [get?_eq_none_iff, keys_ofPositions, List.mem_range, Nat.not_lt]
      exact List.getElem?_eq_none_iff.1 hi
  | some v =>
      have hmem : (i, v) ∈ (ofPositions l).entries :=
        List.mem_map.2 ⟨(v, i), List.mem_zipIdx_iff_getElem?.2 hi, rfl⟩
      exact get?_of_mem hmem

end SortedMap

theorem SortedSet.ofList_toList {κ : Type} [Ord κ] [TransOrd κ] (s : SortedSet κ) :
    SortedSet.ofList s.toList = s := by
  have hfold (l : List (κ × Unit)) (s : SortedSet κ) :
      (l.map Prod.fst).foldl SortedSet.insert s =
        l.foldl (fun m e => SortedMap.insert m e.1 e.2) s := by
    rw [List.foldl_map]
    rfl
  exact (hfold s.entries ∅).trans (SortedMap.ofList_entries s)

end TypingTrainer
