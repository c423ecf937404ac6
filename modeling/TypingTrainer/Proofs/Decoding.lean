import TypingTrainer.Proofs.JsonText

namespace TypingTrainer.Json

variable {α δ : Type}

@[simp] theorem decodeString_node (s : String) : decodeString (Value.str s).node = .ok s :=
  text_quotedOf s

theorem decodeCount_node {n : Nat} (h : n ≤ maxCount) : decodeCount (Value.num n).node = .ok n := by
  rw [Value.node, decodeCount, count?_numeralOf h]

theorem decodeName_node {ofName? : String → Option α} {s : String} {a : α}
    (h : ofName? s = some a) : decodeName ofName? (Value.str s).node = .ok a := by
  simp only [Value.node, decodeName, text_quotedOf, bind, Except.bind, h]
  rfl

theorem decodeList_map_node {β : Type} {item : Decoder α} {write : β → Value} {value : β → α}
    {l : List β} (h : ∀ b ∈ l, item (write b).node = .ok (value b)) :
    decodeList item (Value.arr (l.map write)).node = .ok (l.map value) := by
  have hitems : (itemNodes (l.map write)).mapM item = .ok (l.map value) := by
    induction l with
    | nil => rfl
    | cons b l ih =>
        rw [List.map_cons, itemNodes, List.mapM_cons, h b List.mem_cons_self,
          ih fun b hb => h b (List.mem_cons_of_mem _ hb)]
        rfl
  rw [Value.node, decodeList, hitems]
  rfl

theorem decodeList_node {item : Decoder α} {write : α → Value} {l : List α}
    (h : ∀ a ∈ l, item (write a).node = .ok a) :
    decodeList item (Value.arr (l.map write)).node = .ok l :=
  (decodeList_map_node h).trans (congrArg Except.ok l.map_id)

theorem escapeChar_of_isDigit {c : Char} (h : c.isDigit = true) : escapeChar c = [c] := by
  unfold escapeChar
  split
  case h_8 =>
    have hge : 48 ≤ c.toNat := by
      simp only [Char.isDigit, Bool.and_eq_true, decide_eq_true_eq] at h
      exact h.1
    rw [if_neg (by omega)]
  all_goals exact absurd h (by decide)

theorem escape_toDigits (n : Nat) : escape (Nat.toDigits 10 n) = Nat.toDigits 10 n := by
  have hflat (ds : List Char) (hds : ∀ c ∈ ds, c.isDigit = true) : escape ds = ds := by
    induction ds with
    | nil => rfl
    | cons c ds ih =>
        rw [escape_cons, escapeChar_of_isDigit (hds c List.mem_cons_self),
          ih fun d hd => hds d (List.mem_cons_of_mem _ hd)]
        rfl
  exact hflat _ fun c hc => isDigit_of_mem_toDigits hc

theorem count_quotedOf {n : Nat} (h : n ≤ maxCount) :
    (quotedOf (toString n).toList).count = .ok n := by
  have hraw : quotedOf (toString n).toList = ⟨symbols (Nat.toDigits 10 n), none⟩ := by
    rw [Nat.toString_eq_ofList_toDigits, String.toList_ofList, quotedOf, escape_toDigits]
  have hread : readNumber (symbols (Nat.toDigits 10 n) ++ [some '"']) =
      .ok (numeralOf n, [some '"']) := readNumber_toDigits rfl
  obtain ⟨d, ds, hds, hd⟩ := toDigits_eq_cons n
  rw [hds, symbols_cons] at hread
  rw [hraw, Quoted.count, hds]
  simp only [symbols_cons, hd, Bool.or_true, Bool.not_true, Bool.false_eq_true, if_false,
    Option.isNone_none, if_true, hread, decodeCount, count?_numeralOf h]
  rfl

theorem decodeCountMap_node {value : Decoder α} {write : α → Value} {l : List (Nat × α)}
    (hkey : ∀ e ∈ l, e.1 ≤ maxCount) (h : ∀ e ∈ l, value (write e.2).node = .ok e.2) :
    decodeCountMap value (Value.obj (l.map fun e => (toString e.1, write e.2))).node = .ok l := by
  have hentries : (memberNodes (l.map fun e => (toString e.1, write e.2))).mapM (fun m => do
      let k ← m.1.count
      return (k, ← value m.2)) = .ok l := by
    induction l with
    | nil => rfl
    | cons e l ih =>
        rw [List.map_cons, memberNodes, List.mapM_cons,
          ih (fun e he => hkey e (List.mem_cons_of_mem _ he))
            fun e he => h e (List.mem_cons_of_mem _ he)]
        simp only [count_quotedOf (hkey e List.mem_cons_self), h e List.mem_cons_self]
        rfl
  rw [Value.node, decodeCountMap, hentries]
  rfl

/-- Members fill the fields of a draft one after the other. -/
inductive Fills (fields : List (RecordField δ)) : δ → List (String × Value) → δ → Prop
  | nil (d : δ) : Fills fields d [] d
  | cons {d d₁ d₂ : δ} {name : String} {v : Value} {members : List (String × Value)}
      {f : RecordField δ} (find : fields.find? (fun f => f.name == name) = some f)
      (fresh : f.filled d = false) (fill : f.fill d v.node = .ok d₁)
      (rest : Fills fields d₁ members d₂) : Fills fields d ((name, v) :: members) d₂

theorem RecordField.fill_of {name : String} {get : δ → Option α} {set : δ → α → δ}
    {decode : Decoder α} {d : δ} {node : Node} {a : α} (h : decode node = .ok a) :
    (RecordField.of name get set decode).fill d node = .ok (set d a) := by
  simp only [RecordField.of, h]
  rfl

theorem Fills.fillMembers {fields : List (RecordField δ)} {d d₁ : δ}
    {members : List (String × Value)} (h : Fills fields d members d₁) :
    fillMembers fields d (memberNodes members) = .ok d₁ := by
  induction h with
  | nil d => rfl
  | cons find fresh fill _ ih =>
      rw [memberNodes, Json.fillMembers]
      simp only [text_quotedOf, bind, Except.bind, find, fresh, fill, ih, Bool.false_eq_true,
        if_false]

theorem decodeRecord_node {fields : List (RecordField δ)} {start d : δ} {finish? : δ → Option α}
    {members : List (String × Value)} {a : α} (h : Fills fields start members d)
    (hfinish : finish? d = some a) :
    decodeRecord fields start finish? (Value.obj members).node = .ok a := by
  simp only [Value.node, decodeRecord, h.fillMembers, bind, Except.bind, hfinish]
  rfl

theorem of_guard_ok {c : Prop} [Decidable c] {e : Fault} {x : Except Fault α} {a : α}
    (h : (if c then .error e else x) = .ok a) : x = .ok a := by
  split at h
  · exact nomatch h
  · exact h

theorem Numeral.le_of_count? {m : Numeral} {n : Nat} (h : m.count? = some n) : n ≤ maxCount := by
  rw [Numeral.count?, Option.ite_none_left_eq_some] at h
  obtain ⟨hle, heq⟩ := Option.ite_none_right_eq_some.1 h.2
  exact Option.some.inj heq ▸ hle

theorem decodeCount_le {node : Node} {n : Nat} (h : decodeCount node = .ok n) : n ≤ maxCount := by
  rw [decodeCount.eq_def] at h
  split at h
  · split at h
    · next v hv => exact Except.ok.inj h ▸ Numeral.le_of_count? hv
    · exact nomatch h
  · exact nomatch h

theorem count_le {q : Quoted} {n : Nat} (h : q.count = .ok n) : n ≤ maxCount := by
  rw [Quoted.count] at h
  have hguard := of_guard_ok h
  split at hguard
  · exact nomatch hguard
  · obtain ⟨v, hv, hguard⟩ := of_bind_ok hguard
    split at hguard
    · exact Except.ok.inj hguard ▸ decodeCount_le hv
    · exact nomatch hguard

theorem mapM_yields {β : Type} {f : β → Except Fault α} {P : α → Prop}
    (hP : ∀ b a, f b = .ok a → P a) {l : List β} {as : List α} (h : l.mapM f = .ok as) :
    ∀ a ∈ as, P a := by
  induction l generalizing as with
  | nil =>
      obtain rfl : [] = as := Except.ok.inj h
      exact fun _ ha => nomatch ha
  | cons b l ih =>
      rw [List.mapM_cons] at h
      obtain ⟨a, ha, h⟩ := of_bind_ok h
      obtain ⟨tail, htail, h⟩ := of_bind_ok h
      obtain rfl : a :: tail = as := Except.ok.inj h
      exact List.forall_mem_cons.2 ⟨hP b a ha, ih htail⟩

theorem decodeList_yields {item : Decoder α} {P : α → Prop}
    (hP : ∀ node a, item node = .ok a → P a) {node : Node} {l : List α}
    (h : decodeList item node = .ok l) : ∀ a ∈ l, P a := by
  rw [decodeList.eq_def] at h
  split at h
  · obtain ⟨values, hvalues, h⟩ := of_bind_ok h
    obtain ⟨-, -, h⟩ := of_bind_ok h
    obtain rfl : values = l := Except.ok.inj h
    exact mapM_yields hP hvalues
  · exact nomatch h

theorem decodeCountMap_yields {value : Decoder α} {P : α → Prop}
    (hP : ∀ node a, value node = .ok a → P a) {node : Node} {l : List (Nat × α)}
    (h : decodeCountMap value node = .ok l) : ∀ e ∈ l, e.1 ≤ maxCount ∧ P e.2 := by
  rw [decodeCountMap.eq_def] at h
  split at h
  · obtain ⟨entries, hentries, h⟩ := of_bind_ok h
    obtain ⟨-, -, h⟩ := of_bind_ok h
    obtain rfl : entries = l := Except.ok.inj h
    refine mapM_yields (fun m e he => ?_) hentries
    obtain ⟨k, hk, he⟩ := of_bind_ok he
    obtain ⟨a, ha, he⟩ := of_bind_ok he
    obtain rfl : (k, a) = e := Except.ok.inj he
    exact ⟨count_le hk, hP _ a ha⟩
  · exact nomatch h

/-- What every filling of a field keeps of a draft. -/
def Keeps (fields : List (RecordField δ)) (P : δ → Prop) : Prop :=
  ∀ f ∈ fields, ∀ d node d₁, P d → f.fill d node = .ok d₁ → P d₁

section Records

variable {fields : List (RecordField δ)} {P : δ → Prop} {d d₁ : δ}

theorem Keeps.nil : Keeps [] P := fun _ hf => nomatch hf

theorem Keeps.cons {f : RecordField δ} (hf : ∀ d node d₁, P d → f.fill d node = .ok d₁ → P d₁)
    (h : Keeps fields P) : Keeps (f :: fields) P := List.forall_mem_cons.2 ⟨hf, h⟩

theorem Keeps.fillMembers (h : Keeps fields P) {members : List (Quoted × Node)} (hd : P d)
    (heq : fillMembers fields d members = .ok d₁) : P d₁ := by
  induction members generalizing d with
  | nil => exact Except.ok.inj heq ▸ hd
  | cons m members ih =>
      obtain ⟨key, node⟩ := m
      rw [Json.fillMembers] at heq
      obtain ⟨name, -, heq⟩ := of_bind_ok heq
      split at heq
      · next f hf =>
        split at heq
        · exact nomatch heq
        · obtain ⟨d', hfill, heq⟩ := of_bind_ok heq
          exact ih (h f (List.mem_of_find?_eq_some hf) d node d' hd hfill) heq
      · obtain ⟨-, -, heq⟩ := of_bind_ok heq
        exact ih hd heq

theorem Keeps.fillItems {ending : Ending} (h : Keeps fields P) {items : List Node} (hd : P d)
    (heq : fillItems ending fields d items = .ok d₁) : P d₁ := by
  induction fields generalizing d items with
  | nil =>
      cases items with
      | nil =>
          rw [Json.fillItems.eq_def] at heq
          dsimp only at heq
          split at heq
          · exact Except.ok.inj heq ▸ hd
          · exact nomatch heq
          · exact nomatch heq
      | cons => exact nomatch heq
  | cons f fields ih =>
      cases items with
      | nil =>
          rw [Json.fillItems] at heq
          obtain ⟨-, -, heq⟩ := of_bind_ok heq
          exact Except.ok.inj heq ▸ hd
      | cons node items =>
          rw [Json.fillItems] at heq
          obtain ⟨d', hfill, heq⟩ := of_bind_ok heq
          exact ih (fun f hf => h f (List.mem_cons_of_mem _ hf))
            (h f List.mem_cons_self d node d' hd hfill) heq

theorem Keeps.decodeRecord {finish? : δ → Option α} {node : Node} {a : α} (h : Keeps fields P)
    (hd : P d) (heq : decodeRecord fields d finish? node = .ok a) :
    ∃ d₁, P d₁ ∧ finish? d₁ = some a := by
  rw [Json.decodeRecord.eq_def] at heq
  split at heq
  · obtain ⟨d₁, hfill, heq⟩ := of_bind_ok heq
    obtain ⟨-, -, heq⟩ := of_bind_ok heq
    split at heq
    · next b hb => exact ⟨d₁, h.fillMembers hd hfill, hb.trans (congrArg some (Except.ok.inj heq))⟩
    · exact nomatch heq
  · obtain ⟨d₁, hfill, heq⟩ := of_bind_ok heq
    dsimp only at heq
    split at heq
    · next b hb => exact ⟨d₁, h.fillItems hd hfill, hb.trans (congrArg some (Except.ok.inj heq))⟩
    · exact nomatch heq
  · exact nomatch heq

theorem RecordField.of_fill {name : String} {get : δ → Option α} {set : δ → α → δ}
    {decode : Decoder α} {node : Node}
    (h : (RecordField.of name get set decode).fill d node = .ok d₁) :
    ∃ a, decode node = .ok a ∧ d₁ = set d a := by
  obtain ⟨a, ha, heq⟩ := of_bind_ok h
  exact ⟨a, ha, (Except.ok.inj heq).symm⟩

end Records

end TypingTrainer.Json
