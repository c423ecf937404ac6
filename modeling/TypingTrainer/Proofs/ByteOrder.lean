import TypingTrainer.Text.Utf8

namespace TypingTrainer.Text

theorem toList_loop (front rest passed : Bytes) :
    ByteArray.toList.loop ⟨⟨front ++ rest⟩⟩ front.length passed = passed.reverse ++ rest := by
  induction rest generalizing front passed with
  | nil => rw [ByteArray.toList.loop, if_neg (by simp [ByteArray.size]), List.append_nil]
  | cons b rest ih =>
      have hget : (⟨⟨front ++ b :: rest⟩⟩ : ByteArray).get! front.length = b := by
        simp [ByteArray.get!]
      have hnext := ih (front ++ [b]) (b :: passed)
      rw [List.append_assoc, List.singleton_append, List.length_append, List.length_singleton,
        List.reverse_cons, List.append_assoc, List.singleton_append] at hnext
      rw [ByteArray.toList.loop, if_pos (by simp [ByteArray.size]), hget]
      exact hnext

theorem toUtf8_eq (s : String) : toUtf8 s = s.toList.flatMap String.utf8EncodeChar := by
  have hbytes : s.toUTF8 = (s.toList.flatMap String.utf8EncodeChar).toByteArray := by
    have hs := String.toByteArray_ofList (l := s.toList)
    rwa [String.ofList_toList] at hs
  have hdata : s.toUTF8 = ⟨⟨s.toList.flatMap String.utf8EncodeChar⟩⟩ := by
    rw [hbytes]
    exact ByteArray.ext (Array.ext' List.toList_data_toByteArray)
  rw [toUtf8, hdata]
  exact toList_loop [] _ []

theorem ofNat_lt {m n : Nat} (hm : m < 256) (hn : n < 256) :
    UInt8.ofNat m < UInt8.ofNat n ↔ m < n := by
  rw [UInt8.lt_iff_toNat_lt, UInt8.toNat_ofNat', UInt8.toNat_ofNat', Nat.mod_eq_of_lt hm,
    Nat.mod_eq_of_lt hn]

theorem ofNat_eq {m n : Nat} (hm : m < 256) (hn : n < 256) :
    UInt8.ofNat m = UInt8.ofNat n ↔ m = n := by
  rw [← UInt8.toNat_inj, UInt8.toNat_ofNat', UInt8.toNat_ofNat', Nat.mod_eq_of_lt hm,
    Nat.mod_eq_of_lt hn]

theorem digits_lt {x y : Nat} (h : x < y) : x / 262144 < y / 262144 ∨ x / 262144 = y / 262144 ∧
    (x / 4096 % 64 < y / 4096 % 64 ∨ x / 4096 % 64 = y / 4096 % 64 ∧
      (x / 64 % 64 < y / 64 % 64 ∨ x / 64 % 64 = y / 64 % 64 ∧ x % 64 < y % 64)) := by
  have hdigit {x y : Nat} (h : x < y) : x / 64 < y / 64 ∨ x / 64 = y / 64 ∧ x % 64 < y % 64 := by
    omega
  have hmul (x : Nat) : x / 4096 = x / 64 / 64 ∧ x / 262144 = x / 64 / 64 / 64 := by
    simp only [Nat.div_div_eq_div_mul, Nat.reduceMul, and_self]
  rw [(hmul x).1, (hmul x).2, (hmul y).1, (hmul y).2]
  rcases hdigit h with h | ⟨heq, h⟩
  · rcases hdigit h with h | ⟨heq, h⟩
    · rcases hdigit h with h | ⟨heq, h⟩
      · exact .inl h
      · exact .inr ⟨heq, .inl h⟩
    · rw [heq]
      exact .inr ⟨rfl, .inr ⟨rfl, .inl h⟩⟩
  · rw [heq]
    exact .inr ⟨rfl, .inr ⟨rfl, .inr ⟨rfl, h⟩⟩⟩

/-- At the first byte where two characters differ, the lower one has the lower byte. -/
theorem utf8EncodeChar_lt {c d : Char} (h : c < d) (l m : Bytes) :
    String.utf8EncodeChar c ++ l < String.utf8EncodeChar d ++ m := by
  have hlt : c.val.toNat < d.val.toNat := h
  have hdigits := digits_lt hlt
  have hmax : d.val.toNat < 1114112 := by
    rcases d.valid with hd | ⟨-, hd⟩
    · exact Nat.lt_trans hd (by decide)
    · exact hd
  simp only [String.utf8EncodeChar]
  generalize c.val.toNat = x at *
  generalize d.val.toNat = y at *
  have hx : x / 262144 % 8 = x / 262144 := Nat.mod_eq_of_lt (by omega)
  have hy : y / 262144 % 8 = y / 262144 := Nat.mod_eq_of_lt (by omega)
  by_cases htail : l < m
  all_goals
    repeat' split
    all_goals
      simp (disch := omega) only [List.cons_append, List.nil_append, List.cons_lt_cons_iff,
        ofNat_lt, ofNat_eq, hx, hy, Nat.add_lt_add_iff_right, Nat.add_right_cancel_iff, htail,
        and_true, and_false, or_false]
      -- encodings of different lengths differ in their first bytes
      first
      | exact .inl (by omega)
      | omega

theorem flatMap_utf8EncodeChar_lt {cs ds : List Char} (h : cs < ds) :
    cs.flatMap String.utf8EncodeChar < ds.flatMap String.utf8EncodeChar := by
  induction cs generalizing ds with
  | nil =>
      cases ds with
      | nil => exact absurd h (List.lt_irrefl _)
      | cons d ds =>
          cases hd : String.utf8EncodeChar d with
          | nil => exact absurd hd String.utf8EncodeChar_ne_nil
          | cons b bs =>
              rw [List.flatMap_cons, hd]
              exact List.nil_lt_cons b _
  | cons c cs ih =>
      cases ds with
      | nil => exact absurd h (List.not_lt_nil _)
      | cons d ds =>
          rw [List.flatMap_cons, List.flatMap_cons]
          rcases List.cons_lt_cons_iff.1 h with hlt | ⟨rfl, hlt⟩
          · exact utf8EncodeChar_lt hlt _ _
          · exact List.append_left_lt (ih hlt)

/-- Of two texts the lower one has the lower bytes. -/
theorem toUtf8_lt {s t : String} (h : compare s t = .lt) : toUtf8 s < toUtf8 t := by
  rw [toUtf8_eq, toUtf8_eq]
  exact flatMap_utf8EncodeChar_lt (String.lt_iff.1 (compareOfLessAndEq_eq_lt.1 h))

end TypingTrainer.Text
