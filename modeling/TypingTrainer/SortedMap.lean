namespace TypingTrainer

open Std

/-- A finite map, kept as its entries in strictly increasing order of the keys. Two maps with the
same entries are therefore equal. -/
@[ext]
structure SortedMap (κ : Type) [Ord κ] (α : Type) where
  entries : List (κ × α)
  increasing : entries.Pairwise fun a b => compare a.1 b.1 = .lt

namespace SortedMap

variable {κ α : Type} [Ord κ]

def empty : SortedMap κ α := ⟨[], .nil⟩

instance : EmptyCollection (SortedMap κ α) := ⟨empty⟩

instance : Inhabited (SortedMap κ α) := ⟨empty⟩

instance [DecidableEq κ] [DecidableEq α] : DecidableEq (SortedMap κ α) := fun m n =>
  decidable_of_iff (m.entries = n.entries) ⟨SortedMap.ext, fun h => h ▸ rfl⟩

def keys (m : SortedMap κ α) : List κ := m.entries.map Prod.fst

def get? (m : SortedMap κ α) (k : κ) : Option α :=
  (m.entries.find? fun e => compare k e.1 == .eq).map Prod.snd

def contains (m : SortedMap κ α) (k : κ) : Bool := m.entries.any fun e => compare k e.1 == .eq

def insertEntry (k : κ) (v : α) : List (κ × α) → List (κ × α)
  | [] => [(k, v)]
  | e :: rest =>
    match compare k e.1 with
    | .lt => (k, v) :: e :: rest
    | .eq => (k, v) :: rest
    | .gt => e :: insertEntry k v rest

theorem mem_of_mem_insertEntry {k : κ} {v : α} {e : κ × α} {l : List (κ × α)}
    (h : e ∈ insertEntry k v l) : e = (k, v) ∨ e ∈ l := by
  induction l with
  | nil => simpa [insertEntry] using h
  | cons hd tl ih =>
    rw [insertEntry] at h
    split at h
    · simpa using h
    · rcases List.mem_cons.1 h with h | h
      · exact .inl h
      · exact .inr (List.mem_cons_of_mem _ h)
    · rcases List.mem_cons.1 h with h | h
      · exact .inr (h ▸ List.mem_cons_self)
      · exact (ih h).imp_right (List.mem_cons_of_mem _)

theorem increasing_insertEntry [TransOrd κ] (k : κ) (v : α) {l : List (κ × α)}
    (h : l.Pairwise fun a b => compare a.1 b.1 = .lt) :
    (insertEntry k v l).Pairwise fun a b => compare a.1 b.1 = .lt := by
  induction l with
  | nil => simp [insertEntry]
  | cons hd tl ih =>
    have htl := List.pairwise_cons.1 h
    rw [insertEntry]
    split
    · next hlt =>
      refine List.pairwise_cons.2 ⟨fun e he => ?_, h⟩
      rcases List.mem_cons.1 he with rfl | he
      · exact hlt
      · exact TransCmp.lt_trans hlt (htl.1 e he)
    · next heq =>
      refine List.pairwise_cons.2 ⟨fun e he => ?_, htl.2⟩
      rw [TransCmp.congr_left heq]
      exact htl.1 e he
    · next hgt =>
      refine List.pairwise_cons.2 ⟨fun e he => ?_, ih htl.2⟩
      rcases mem_of_mem_insertEntry he with rfl | he
      · exact OrientedCmp.gt_iff_lt.1 hgt
      · exact htl.1 e he

def insert [TransOrd κ] (m : SortedMap κ α) (k : κ) (v : α) : SortedMap κ α :=
  ⟨insertEntry k v m.entries, increasing_insertEntry k v m.increasing⟩

theorem find?_insertEntry [TransOrd κ] (k x : κ) (v : α) (l : List (κ × α)) :
    (insertEntry k v l).find? (fun e => compare x e.1 == .eq) =
      if compare x k = .eq then some (k, v) else l.find? fun e => compare x e.1 == .eq := by
  induction l with
  | nil => cases hx : compare x k <;> simp [insertEntry, hx]
  | cons hd tl ih =>
    rw [insertEntry]
    split
    · cases hx : compare x k <;> simp [hx]
    · next heq =>
      have hhd : compare x hd.1 = compare x k := (TransCmp.congr_right heq).symm
      cases hx : compare x k <;> simp [hhd, hx]
    · next hgt =>
      simp only [List.find?_cons, ih]
      by_cases hx : compare x k = .eq
      · have hhd : compare x hd.1 = .gt := (TransCmp.congr_left hx).trans hgt
        simp [hhd, hx]
      · simp [hx]

theorem get?_insert [TransOrd κ] (m : SortedMap κ α) (k x : κ) (v : α) :
    (m.insert k v).get? x = if compare x k = .eq then some v else m.get? x := by
  simp only [get?, insert, find?_insertEntry]
  split <;> rfl

theorem mem_keys_insertEntry [LawfulEqOrd κ] {x k : κ} {v : α} {l : List (κ × α)} :
    x ∈ (insertEntry k v l).map Prod.fst ↔ x = k ∨ x ∈ l.map Prod.fst := by
  induction l with
  | nil => simp [insertEntry]
  | cons hd tl ih =>
    rw [insertEntry]
    split
    · simp
    · next heq =>
      have hk : k = hd.1 := LawfulEqCmp.compare_eq_iff_eq.1 heq
      simp [hk]
    · rw [List.map_cons, List.mem_cons, ih, List.map_cons, List.mem_cons, or_left_comm]

def ofList [TransOrd κ] (l : List (κ × α)) : SortedMap κ α :=
  l.foldl (fun m e => m.insert e.1 e.2) ∅

def erase (m : SortedMap κ α) (k : κ) : SortedMap κ α :=
  ⟨m.entries.filter fun e => !(compare k e.1 == .eq), m.increasing.filter _⟩

def ofPositions (l : List α) : SortedMap Nat α where
  entries := l.zipIdx.map fun e => (e.2, e.1)
  increasing := by
    rw [List.pairwise_map, List.zipIdx_eq_zip_range']
    refine List.pairwise_iff_getElem.2 fun i j hi hj hij => ?_
    simp only [List.getElem_zip, List.getElem_range']
    exact Nat.compare_eq_lt.2 (by omega)

end SortedMap

abbrev SortedSet (κ : Type) [Ord κ] := SortedMap κ Unit

namespace SortedSet

variable {κ : Type} [Ord κ]

def toList (s : SortedSet κ) : List κ := SortedMap.keys s

instance : Membership κ (SortedSet κ) := ⟨fun s k => k ∈ toList s⟩

def insert [TransOrd κ] (s : SortedSet κ) (k : κ) : SortedSet κ := SortedMap.insert s k ()

def insertMany [TransOrd κ] (s : SortedSet κ) (ks : List κ) : SortedSet κ := ks.foldl insert s

def ofList [TransOrd κ] (ks : List κ) : SortedSet κ := insertMany ∅ ks

@[simp]
theorem not_mem_empty (x : κ) : ¬ x ∈ (∅ : SortedSet κ) := List.not_mem_nil

theorem mem_insert [TransOrd κ] [LawfulEqOrd κ] {s : SortedSet κ} {x k : κ} :
    x ∈ s.insert k ↔ x = k ∨ x ∈ s := SortedMap.mem_keys_insertEntry

theorem mem_insertMany [TransOrd κ] [LawfulEqOrd κ] {s : SortedSet κ} {ks : List κ} {x : κ} :
    x ∈ s.insertMany ks ↔ x ∈ s ∨ x ∈ ks := by
  induction ks generalizing s with
  | nil => simp [insertMany]
  | cons k ks ih =>
    have hstep : s.insertMany (k :: ks) = (s.insert k).insertMany ks := rfl
    rw [hstep, ih, mem_insert, List.mem_cons, or_comm (a := x = k), or_assoc]

end SortedSet

end TypingTrainer
