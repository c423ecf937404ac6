import TypingTrainer.Json.Decode
import TypingTrainer.Json.Value

namespace TypingTrainer.Json

def symbols (cs : List Char) : List Symbol := cs.map some

@[simp] theorem symbols_nil : symbols [] = [] := rfl

@[simp] theorem symbols_cons (c : Char) (cs : List Char) :
    symbols (c :: cs) = some c :: symbols cs := rfl

@[simp] theorem symbols_append (cs ds : List Char) :
    symbols (cs ++ ds) = symbols cs ++ symbols ds := List.map_append

def quotedOf (s : List Char) : Quoted := ⟨symbols (escape s), none⟩

theorem escapeChar_cases (c : Char) :
    (∃ d, escapeChar c = ['\\', d] ∧ isEscapable d = true ∧ d ≠ 'u' ∧ unescape d = c) ∨
    (∃ n < 32, c = Char.ofNat n ∧ escapeChar c =
      ['\\', 'u', '0', '0', Nat.digitChar (n / 16), Nat.digitChar (n % 16)]) ∨
    escapeChar c = [c] ∧ c ≠ '"' ∧ c ≠ '\\' ∧ ¬ c < ' ' := by
  unfold escapeChar
  split
  case h_8 _ h₁ h₂ h₃ h₄ h₅ h₆ h₇ =>
    split
    · next hlt => exact .inr (.inl ⟨c.toNat, hlt, c.ofNat_toNat.symm, rfl⟩)
    · next hge =>
      refine .inr (.inr ⟨rfl, h₁, h₂, fun hlt => hge ?_⟩)
      exact hlt
  all_goals exact .inl ⟨_, rfl, by decide, by decide, by decide⟩

theorem isHex_digitChar : ∀ n < 32,
    isHex (Nat.digitChar (n / 16)) = true ∧ isHex (Nat.digitChar (n % 16)) = true := by
  decide

theorem hexCode_digitChar : ∀ n < 32,
    hexCode '0' '0' (Nat.digitChar (n / 16)) (Nat.digitChar (n % 16)) = n := by
  decide

def Quoted.prepend (front : List Symbol) (q : Quoted) : Quoted := { q with raw := front ++ q.raw }

theorem readQuoted_escapeChar (c : Char) (rest : List Symbol) :
    readQuoted (symbols (escapeChar c) ++ rest) =
      ((readQuoted rest).1.prepend (symbols (escapeChar c)), (readQuoted rest).2) := by
  rcases escapeChar_cases c with ⟨d, heq, hd, hu, -⟩ | ⟨n, hn, -, heq⟩ | ⟨heq, hquote, hslash, hlt⟩
  · simp only [heq, symbols_cons, symbols_nil, List.cons_append, List.nil_append]
    rw [readQuoted]
    · simp only [hd, if_true, Quoted.prepend, List.cons_append, List.nil_append]
    · exact fun _ _ _ _ _ _ h => hu h
    · exact hu
  · obtain ⟨h₁, h₂⟩ := isHex_digitChar n hn
    have hzero : isHex '0' = true := by decide
    simp only [heq, symbols_cons, symbols_nil, List.cons_append, List.nil_append]
    rw [readQuoted]
    simp [h₁, h₂, hzero, Quoted.prepend]
  · simp only [heq, symbols_cons, symbols_nil, List.cons_append, List.nil_append]
    rw [readQuoted]
    · simp only [hlt, if_false, Quoted.prepend, List.cons_append, List.nil_append]
    · exact hquote
    · exact hslash

theorem escape_cons (c : Char) (s : List Char) : escape (c :: s) = escapeChar c ++ escape s := rfl

theorem readQuoted_escape (s : List Char) (rest : List Symbol) :
    readQuoted (symbols (escape s) ++ some '"' :: rest) = (quotedOf s, rest) := by
  induction s with
  | nil => rfl
  | cons c s ih =>
      rw [escape_cons, symbols_append, List.append_assoc, readQuoted_escapeChar, ih]
      simp only [Quoted.prepend, quotedOf, escape_cons, symbols_append]

theorem characters_escapeChar (c : Char) (rest : List Symbol) :
    characters none (symbols (escapeChar c) ++ rest) = (characters none rest).map (c :: ·) := by
  rcases escapeChar_cases c with ⟨d, heq, -, hu, hd⟩ | ⟨n, hn, rfl, heq⟩ | ⟨heq, -, hslash, hlt⟩
  · simp only [heq, symbols_cons, symbols_nil, List.cons_append, List.nil_append]
    rw [characters, hd]
    · rfl
    · exact fun _ _ _ _ _ _ h => hu h
  · have hlow : isLowSurrogate n = false := by simp [isLowSurrogate]; omega
    have hhigh : isHighSurrogate n = false := by simp [isHighSurrogate]; omega
    simp only [heq, symbols_cons, symbols_nil, List.cons_append, List.nil_append]
    rw [characters.eq_def]
    simp only [hexCode_digitChar n hn, hlow, hhigh, Bool.false_eq_true, if_false]
    rfl
  · simp only [heq, symbols_cons, symbols_nil, List.cons_append, List.nil_append]
    rw [characters]
    · simp only [hlt, if_false]
      rfl
    · exact fun _ _ _ _ _ _ h => hslash h
    · exact fun _ _ _ h => hslash h
    · exact fun _ h => hslash h

theorem characters_escape (s : List Char) : characters none (symbols (escape s)) = .ok s := by
  induction s with
  | nil => rfl
  | cons c s ih =>
      rw [escape_cons, symbols_append, characters_escapeChar, ih]
      rfl

@[simp] theorem text_quotedOf (s : String) : (quotedOf s.toList).text = .ok s := by
  rw [Quoted.text, quotedOf, characters_escape]
  exact congrArg Except.ok (String.ofList_toList ..)

def endsNumber : List Symbol → Bool
  | some c :: _ => !c.isDigit && c != '.' && c != 'e' && c != 'E'
  | _ => true

variable {n : Nat} {rest : List Symbol}

def numeralOf (n : Nat) : Numeral := ⟨false, Nat.toDigits 10 n, [], none⟩

theorem takeDigits_append {ds : List Char} (hds : ∀ c ∈ ds, c.isDigit = true)
    (hrest : endsNumber rest = true) : takeDigits (symbols ds ++ rest) = (ds, rest) := by
  induction ds with
  | nil =>
      cases rest with
      | nil => rfl
      | cons s rest =>
          cases s with
          | none => rfl
          | some c =>
              have hc : c.isDigit = false := by simp_all [endsNumber]
              simp [takeDigits, hc]
  | cons c ds ih =>
      have hc : c.isDigit = true := hds c List.mem_cons_self
      simp [takeDigits, hc, ih fun d hd => hds d (List.mem_cons_of_mem _ hd)]

theorem readFraction_of_ends (h : endsNumber rest = true) : readFraction rest = .ok ([], rest) := by
  rw [readFraction.eq_def]
  split
  · simp [endsNumber] at h
  · rfl

theorem readExponent_of_ends (h : endsNumber rest = true) :
    readExponent rest = .ok (none, rest) := by
  rw [readExponent.eq_def]
  split
  · simp [endsNumber] at h
  · simp [endsNumber] at h
  · rfl

theorem isDigit_of_mem_toDigits {c : Char} (h : c ∈ Nat.toDigits 10 n) : c.isDigit = true :=
  Nat.isDigit_of_mem_toDigits (by decide) (by decide) h

theorem toDigits_eq_cons (n : Nat) : ∃ d ds, Nat.toDigits 10 n = d :: ds ∧ d.isDigit = true := by
  obtain ⟨d, ds, hds⟩ := List.exists_cons_of_ne_nil (Nat.toDigits_ne_nil (b := 10) (n := n))
  exact ⟨d, ds, hds, isDigit_of_mem_toDigits (hds ▸ List.mem_cons_self)⟩

theorem eq_zero_of_head?_toDigits (h : (Nat.toDigits 10 n).head? = some '0') : n = 0 := by
  induction n using Nat.strongRecOn with
  | ind n ih =>
      rw [Nat.toDigits_eq_if (by decide)] at h
      split at h
      · exact Nat.digitChar_eq_zero.1 (Option.some.inj h)
      · next hn =>
        rw [List.head?_append, Option.or_of_isSome (by simp [Nat.toDigits_ne_nil])] at h
        have hdiv := ih (n / 10) (by omega) h
        omega

theorem readNumber_toDigits (h : endsNumber rest = true) :
    readNumber (symbols (Nat.toDigits 10 n) ++ rest) = .ok (numeralOf n, rest) := by
  have hdigits := takeDigits_append (fun c hc => isDigit_of_mem_toDigits (n := n) hc) h
  have hzero : ((Nat.toDigits 10 n).head? == some '0' &&
      decide ((Nat.toDigits 10 n).length ≠ 1)) = false := by
    by_cases hhead : (Nat.toDigits 10 n).head? = some '0'
    · rw [eq_zero_of_head?_toDigits hhead]
      rfl
    · simp [hhead]
  have hempty : (Nat.toDigits 10 n).isEmpty = false := by simp [Nat.toDigits_ne_nil]
  rw [readNumber]
  · simp only [hdigits, hzero, hempty, Bool.false_eq_true, if_false, readFraction_of_ends h, bind,
      Except.bind, readExponent_of_ends h]
    rfl
  · -- no digit is a sign
    intro more heq
    obtain ⟨d, ds, hds, hd⟩ := toDigits_eq_cons n
    rw [hds] at heq
    obtain rfl : d = '-' := by simpa using (List.cons.inj heq).1
    exact absurd hd (by decide)

theorem digitsValue_toDigits (n : Nat) : digitsValue (Nat.toDigits 10 n) = n := by
  have hvalue : Nat.ofDigitChars 10 (Nat.toDigits 10 n) 0 = n := Nat.ofDigitChars_ten_toDigits
  rwa [Nat.ofDigitChars_eq_foldl] at hvalue

@[simp] theorem count?_numeralOf (h : n ≤ maxCount) : (numeralOf n).count? = some n := by
  simp [Numeral.count?, numeralOf, digitsValue_toDigits, h]

mutual

def Value.node : Value → Node
  | .null => .null
  | .bool b => .bool b
  | .num n => .number (numeralOf n)
  | .str s => .string (quotedOf s.toList)
  | .arr items => .array (itemNodes items) .closed
  | .obj members => .object (memberNodes members) .closed

def itemNodes : List Value → List Node
  | [] => []
  | v :: rest => v.node :: itemNodes rest

def memberNodes : List (String × Value) → List (Quoted × Node)
  | [] => []
  | m :: rest => (quotedOf m.1.toList, m.2.node) :: memberNodes rest

end

@[simp] theorem problem_node (v : Value) : v.node.problem = none := by
  cases v <;> rfl

def AllBlank (cs : List Char) : Prop := ∀ c ∈ cs, isBlankSymbol (some c) = true

structure Layout.Blank (layout : Layout) : Prop where
  lineBreak (depth : Nat) : AllBlank (layout.lineBreak depth)
  afterColon : AllBlank layout.afterColon

theorem blank_compact : Layout.compact.Blank :=
  ⟨fun _ _ hc => (nomatch hc), fun _ hc => (nomatch hc)⟩

theorem blank_pretty : Layout.pretty.Blank := by
  constructor
  · intro depth c hc
    rcases List.mem_cons.1 hc with rfl | hc
    · rfl
    · rw [List.eq_of_mem_replicate hc]
      rfl
  · intro c hc
    rw [List.mem_singleton.1 hc]
    rfl

theorem skipBlanks_append {bs : List Char} (h : AllBlank bs) (rest : List Symbol) :
    skipBlanks (symbols bs ++ rest) = skipBlanks rest := by
  induction bs with
  | nil => rfl
  | cons b bs ih =>
      have hb : isBlankSymbol (some b) = true := h b List.mem_cons_self
      rw [symbols_cons, List.cons_append, skipBlanks, List.dropWhile_cons_of_pos hb]
      exact ih fun c hc => h c (List.mem_cons_of_mem _ hc)

theorem skipBlanks_cons {c : Char} (h : isBlankSymbol (some c) = false) (rest : List Symbol) :
    skipBlanks (some c :: rest) = some c :: rest :=
  List.dropWhile_cons_of_neg (by simp [h])

theorem skipBlanks_append_cons {bs : List Char} {c : Char} (h : AllBlank bs)
    (hc : isBlankSymbol (some c) = false) (rest : List Symbol) :
    skipBlanks (symbols bs ++ some c :: rest) = some c :: rest :=
  (skipBlanks_append h _).trans (skipBlanks_cons hc rest)

theorem isBlank_of_isDigit {d : Char} (h : d.isDigit = true) : isBlankSymbol (some d) = false := by
  simp only [isBlankSymbol, Bool.or_eq_false_iff, beq_eq_false_iff_ne]
  refine ⟨⟨⟨?_, ?_⟩, ?_⟩, ?_⟩ <;> rintro rfl <;> exact absurd h (by decide)

theorem write_eq_cons (layout : Layout) (depth : Nat) (v : Value) :
    ∃ c cs, v.write layout depth = c :: cs ∧ isBlankSymbol (some c) = false ∧ c ≠ ']' := by
  cases v with
  | null => exact ⟨'n', _, rfl, by decide, by decide⟩
  | bool b => cases b <;> exact ⟨_, _, rfl, by decide, by decide⟩
  | str s => exact ⟨'"', _, rfl, by decide, by decide⟩
  | num n =>
      obtain ⟨d, ds, hds, hd⟩ := toDigits_eq_cons n
      refine ⟨d, ds, ?_, isBlank_of_isDigit hd, ?_⟩
      · rw [Value.write, Nat.toString_eq_ofList_toDigits, String.toList_ofList, hds]
      · rintro rfl
        exact absurd hd (by decide)
  | arr items => cases items <;> exact ⟨_, _, rfl, by decide, by decide⟩
  | obj members => cases members <;> exact ⟨_, _, rfl, by decide, by decide⟩

section Reading

variable {fuel : Nat} {input more after : List Symbol} {node : Node} {key : List Char}

theorem readItems_last (hitem : readValue fuel input = ⟨node, rest⟩) (hnode : node.problem = none)
    (hrest : skipBlanks rest = some ']' :: after) :
    readItems (fuel + 1) input = ([node], .closed, after) := by
  rw [readItems]
  simp only [hitem, hnode, hrest]

theorem readItems_more {c : Char} (hitem : readValue fuel input = ⟨node, rest⟩)
    (hnode : node.problem = none) (hrest : skipBlanks rest = some ',' :: more)
    (hmore : skipBlanks more = some c :: after) (hc : c ≠ ']') :
    readItems (fuel + 1) input =
      (node :: (readItems fuel (some c :: after)).1, (readItems fuel (some c :: after)).2) := by
  rw [readItems]
  simp only [hitem, hnode, hrest, hmore]
  split
  · next heq => exact nomatch heq
  · next heq => exact absurd (Option.some.inj (List.cons.inj heq).1) hc
  · rfl

theorem readMembers_last (hrest : skipBlanks rest = some ':' :: input)
    (hvalue : readValue fuel input = ⟨node, more⟩) (hnode : node.problem = none)
    (hmore : skipBlanks more = some '\x7d' :: after) :
    readMembers (fuel + 1) (symbols (escape key) ++ some '"' :: rest) =
      ([(quotedOf key, node)], .closed, after) := by
  rw [readMembers]
  simp only [readQuoted_escape, hrest, hvalue, hnode, hmore]
  rfl

theorem readMembers_more {next : List Symbol} (hrest : skipBlanks rest = some ':' :: input)
    (hvalue : readValue fuel input = ⟨node, more⟩) (hnode : node.problem = none)
    (hmore : skipBlanks more = some ',' :: after) (hafter : skipBlanks after = some '"' :: next) :
    readMembers (fuel + 1) (symbols (escape key) ++ some '"' :: rest) =
      ((quotedOf key, node) :: (readMembers fuel next).1, (readMembers fuel next).2) := by
  rw [readMembers]
  simp only [readQuoted_escape, hrest, hvalue, hnode, hmore, hafter]
  rfl

theorem readValue_blanks {bs : List Char} (h : AllBlank bs) :
    readValue fuel (symbols bs ++ input) = readValue fuel input := by
  cases fuel with
  | zero => rfl
  | succ fuel =>
      rw [readValue.eq_def, readValue.eq_def]
      dsimp only
      rw [skipBlanks_append h]

theorem readValue_string (s : List Char) :
    readValue (fuel + 1) (some '"' :: (symbols (escape s) ++ some '"' :: rest)) =
      ⟨.string (quotedOf s), rest⟩ := by
  rw [readValue.eq_def]
  simp only [skipBlanks_cons (c := '"') (by decide)]
  simp [readQuoted_escape]

theorem readValue_number (h : endsNumber rest = true) (n : Nat) :
    readValue (fuel + 1) (symbols (Nat.toDigits 10 n) ++ rest) = ⟨.number (numeralOf n), rest⟩ := by
  have hnumber := readNumber_toDigits (n := n) h
  obtain ⟨d, ds, hds, hd⟩ := toDigits_eq_cons n
  rw [hds, symbols_cons, List.cons_append] at hnumber ⊢
  rw [readValue.eq_def]
  dsimp only
  rw [skipBlanks_cons (isBlank_of_isDigit hd)]
  -- a digit begins no other kind of value
  split
  case h_8 _ c rest _ _ _ _ _ _ heq =>
    obtain ⟨hc, rfl⟩ := List.cons.inj heq
    obtain rfl : d = c := Option.some.inj hc
    simp only [hd, Bool.or_true, if_true, hnumber]
  case h_1 heq | h_9 heq => exact nomatch heq
  all_goals
    next heq =>
      obtain rfl := Option.some.inj (List.cons.inj heq).1
      exact absurd hd (by decide)

theorem readValue_array {c : Char} (hinput : skipBlanks input = some c :: more) (hc : c ≠ ']') :
    readValue (fuel + 1) (some '[' :: input) =
      ⟨.array (readItems fuel (some c :: more)).1 (readItems fuel (some c :: more)).2.1,
        (readItems fuel (some c :: more)).2.2⟩ := by
  rw [readValue.eq_def]
  simp only [skipBlanks_cons (c := '[') (by decide), hinput]
  split
  · next heq => exact absurd (Option.some.inj (List.cons.inj heq).1) hc
  · next heq => exact nomatch heq
  · rfl

theorem readValue_object (hinput : skipBlanks input = some '"' :: more) :
    readValue (fuel + 1) (some '\x7b' :: input) =
      ⟨.object (readMembers fuel more).1 (readMembers fuel more).2.1,
        (readMembers fuel more).2.2⟩ := by
  rw [readValue.eq_def]
  simp only [skipBlanks_cons (c := '\x7b') (by decide), hinput]

end Reading

variable {layout : Layout} {fuel depth : Nat}

theorem endsNumber_blanks {bs : List Char} (h : AllBlank bs) (hrest : endsNumber rest = true) :
    endsNumber (symbols bs ++ rest) = true := by
  cases bs with
  | nil => exact hrest
  | cons b bs =>
      have hb := h b List.mem_cons_self
      simp only [isBlankSymbol, Bool.or_eq_true, beq_iff_eq] at hb
      rcases hb with ((rfl | rfl) | rfl) | rfl <;> rfl

theorem endsNumber_writeItems (layout : Layout) (depth : Nat) (items : List Value)
    (hrest : endsNumber rest = true) :
    endsNumber (symbols (Value.writeItems layout depth items) ++ rest) = true := by
  cases items with
  | nil => exact hrest
  | cons v items => rfl

theorem endsNumber_writeMembers (layout : Layout) (depth : Nat) (members : List (String × Value))
    (hrest : endsNumber rest = true) :
    endsNumber (symbols (Value.writeMembers layout depth members) ++ rest) = true := by
  cases members with
  | nil => exact hrest
  | cons m members => rfl

def ReadsValue (layout : Layout) (fuel : Nat) : Prop :=
  ∀ (v : Value) (depth : Nat) (rest : List Symbol), endsNumber rest = true →
    2 * (v.write layout depth).length ≤ fuel + 1 →
    readValue fuel (symbols (v.write layout depth) ++ rest) = ⟨v.node, rest⟩

def ReadsItems (layout : Layout) (fuel : Nat) : Prop :=
  ∀ (v : Value) (items : List Value) (depth : Nat) (gap : List Char) (rest : List Symbol),
    AllBlank gap →
    2 * ((v.write layout depth).length + (Value.writeItems layout depth items).length) ≤ fuel →
    readItems fuel (symbols (v.write layout depth) ++
      (symbols (Value.writeItems layout depth items) ++ (symbols gap ++ some ']' :: rest))) =
      (itemNodes (v :: items), .closed, rest)

def ReadsMembers (layout : Layout) (fuel : Nat) : Prop :=
  ∀ (k : String) (v : Value) (members : List (String × Value)) (depth : Nat) (gap : List Char)
    (rest : List Symbol), AllBlank gap →
    2 * ((v.write layout depth).length + (Value.writeMembers layout depth members).length) + 2 ≤
      fuel →
    readMembers fuel (symbols (escape k.toList) ++ some '"' :: some ':' ::
      (symbols layout.afterColon ++ (symbols (v.write layout depth) ++
        (symbols (Value.writeMembers layout depth members) ++
          (symbols gap ++ some '\x7d' :: rest))))) =
      (memberNodes ((k, v) :: members), .closed, rest)

/-- A value needs a call for each symbol and one more for each container, and every second call
reads a symbol. -/
structure Reads (layout : Layout) (fuel : Nat) : Prop where
  value : ReadsValue layout fuel
  items : ReadsItems layout fuel
  members : ReadsMembers layout fuel

theorem length_write_pos (layout : Layout) (depth : Nat) (v : Value) :
    0 < (v.write layout depth).length := by
  obtain ⟨c, cs, hc, -⟩ := write_eq_cons layout depth v
  rw [hc]
  exact Nat.succ_pos _

theorem reads_zero (layout : Layout) : Reads layout 0 := by
  constructor
  · intro v depth rest _ hfuel
    have hpos := length_write_pos layout depth v
    omega
  · intro v items depth gap rest _ hfuel
    have hpos := length_write_pos layout depth v
    omega
  · intro k v members depth gap rest _ hfuel
    omega

theorem Reads.items_succ (h : Reads layout fuel) (hl : layout.Blank) :
    ReadsItems layout (fuel + 1) := by
  intro v items depth gap rest hgap hfuel
  have hclose : endsNumber (symbols gap ++ some ']' :: rest) = true := endsNumber_blanks hgap rfl
  have hitem := h.value v depth _ (endsNumber_writeItems layout depth items hclose) (by omega)
  cases items with
  | nil =>
      exact readItems_last hitem (problem_node v) (skipBlanks_append_cons hgap (by decide) rest)
  | cons w items =>
      obtain ⟨c, cs, hw, hblank, hc⟩ := write_eq_cons layout depth w
      have hrest := h.items w items depth gap rest hgap (by
        simp only [Value.writeItems, List.length_append, List.length_cons] at hfuel
        omega)
      simp only [Value.writeItems, symbols_cons, symbols_append, List.cons_append,
        List.append_assoc] at hitem ⊢
      -- what stands behind the second item does not matter
      generalize symbols (Value.writeItems layout depth items) ++
        (symbols gap ++ some ']' :: rest) = tail at hitem hrest ⊢
      have hnext : skipBlanks (symbols (layout.lineBreak depth) ++
          (symbols (w.write layout depth) ++ tail)) = some c :: (symbols cs ++ tail) := by
        rw [hw]
        exact skipBlanks_append_cons (hl.lineBreak depth) hblank _
      rw [hw, symbols_cons, List.cons_append] at hrest
      rw [readItems_more hitem (problem_node v) (skipBlanks_cons (by decide) _) hnext hc, hrest]
      rfl

theorem Reads.members_succ (h : Reads layout fuel) (hl : layout.Blank) :
    ReadsMembers layout (fuel + 1) := by
  intro k v members depth gap rest hgap hfuel
  have hclose : endsNumber (symbols gap ++ some '\x7d' :: rest) = true := endsNumber_blanks hgap rfl
  have hvalue := h.value v depth _ (endsNumber_writeMembers layout depth members hclose) (by omega)
  rw [← readValue_blanks hl.afterColon] at hvalue
  have hcolon (input : List Symbol) : skipBlanks (some ':' :: input) = some ':' :: input :=
    skipBlanks_cons (by decide) _
  cases members with
  | nil =>
      exact readMembers_last (hcolon _) hvalue (problem_node v)
        (skipBlanks_append_cons hgap (by decide) rest)
  | cons m members =>
      obtain ⟨l, w⟩ := m
      have hrest := h.members l w members depth gap rest hgap (by
        simp only [Value.writeMembers, Value.writeMember, quoted, List.length_append,
          List.length_cons] at hfuel
        omega)
      simp only [Value.writeMembers, Value.writeMember, quoted, symbols_cons, symbols_append,
        List.cons_append, List.nil_append, List.append_assoc] at hvalue ⊢
      rw [readMembers_more (hcolon _) hvalue (problem_node v) (skipBlanks_cons (by decide) _)
        (skipBlanks_append_cons (hl.lineBreak depth) (by decide) _), hrest]
      rfl

theorem Reads.value_succ (h : Reads layout fuel) (hl : layout.Blank) :
    ReadsValue layout (fuel + 1) := by
  intro v depth rest hrest hfuel
  cases v with
  | null => rfl
  | bool b => cases b <;> rfl
  | num n =>
      rw [Value.write, Nat.toString_eq_ofList_toDigits, String.toList_ofList]
      exact readValue_number hrest n
  | str s =>
      simp only [Value.write, quoted, symbols_cons, symbols_append, symbols_nil, List.cons_append,
        List.append_assoc, List.nil_append]
      exact readValue_string s.toList
  | arr items =>
      cases items with
      | nil => rfl
      | cons v items =>
          obtain ⟨c, cs, hv, hblank, hc⟩ := write_eq_cons layout (depth + 1) v
          have hitems := h.items v items (depth + 1) (layout.lineBreak depth) rest
            (hl.lineBreak depth) (by
              simp only [Value.write, List.length_append, List.length_cons] at hfuel
              omega)
          simp only [Value.write, symbols_cons, symbols_append, symbols_nil, List.cons_append,
            List.append_assoc, List.nil_append]
          generalize symbols (Value.writeItems layout (depth + 1) items) ++
            (symbols (layout.lineBreak depth) ++ some ']' :: rest) = tail at hitems ⊢
          have hfirst : skipBlanks (symbols (layout.lineBreak (depth + 1)) ++
              (symbols (v.write layout (depth + 1)) ++ tail)) = some c :: (symbols cs ++ tail) := by
            rw [hv]
            exact skipBlanks_append_cons (hl.lineBreak _) hblank _
          rw [hv, symbols_cons, List.cons_append] at hitems
          rw [readValue_array hfirst hc, hitems]
          rfl
  | obj members =>
      cases members with
      | nil => rfl
      | cons m members =>
          obtain ⟨k, v⟩ := m
          have hmembers := h.members k v members (depth + 1) (layout.lineBreak depth) rest
            (hl.lineBreak depth) (by
              simp only [Value.write, Value.writeMember, quoted, List.length_append,
                List.length_cons] at hfuel
              omega)
          simp only [Value.write, Value.writeMember, quoted, symbols_cons, symbols_append,
            symbols_nil, List.cons_append, List.nil_append, List.append_assoc]
          rw [readValue_object (skipBlanks_append_cons (hl.lineBreak _) (by decide) _), hmembers]
          rfl

theorem reads (hl : layout.Blank) (fuel : Nat) : Reads layout fuel := by
  induction fuel with
  | zero => exact reads_zero layout
  | succ fuel ih => exact ⟨ih.value_succ hl, ih.items_succ hl, ih.members_succ hl⟩

/-- What is written of a value is read as the tree of that value, to its end. -/
theorem read_text (hl : layout.Blank) (v : Value) :
    read (symbols (v.text layout).toList) = ⟨v.node, []⟩ := by
  have hvalue := (reads hl (2 * (symbols (v.write layout 0)).length + 2)).value v 0 [] rfl (by
    simp only [symbols, List.length_map]
    omega)
  rw [List.append_nil] at hvalue
  rw [Value.text, String.toList_ofList]
  exact hvalue

/-- What is documented of writing values and reading the texts. -/
def Faithful (write : Value → String) (reader : List Symbol → Read) : Prop :=
  ∀ v : Value, reader (symbols (write v).toList) = ⟨v.node, []⟩

theorem faithful_text (hl : layout.Blank) : Faithful (Value.text layout) read := read_text hl

theorem decodeText_write {α : Type} {decode : Decoder α} {write : Value → String}
    {reader : List Symbol → Read} (h : Faithful write reader) (v : Value) :
    decodeText decode (symbols (write v).toList) reader = decode v.node := by
  rw [decodeText, h v]
  cases decode v.node <;> rfl

end TypingTrainer.Json
