import QueryKit.Sql.Identifier

/-!
# The recursion of quoting

`quoteChars` trims a name, splits it at an alias and quotes each side again; `quoteName` gives
it the length of the name plus one as fuel. Both sides of a split are shorter than the trimmed
name, so that fuel never runs out: the written name is the one the unbounded recursion writes.

* `splitOf` is the decision taken at one level: at ` AS `, before an alias after a blank, or
  nowhere;
* `splitOf_asAlias_length`, `splitOf_spaceAlias_length`: both sides are shorter than the name;
* `quoteChars_fuel`: any fuel beyond the length writes the same name;
* `quoteFull_asAlias`, `quoteFull_spaceAlias`, `quoteFull_whole` are the three equations of the
  recursion without fuel, and `quoteFull_induction` proves facts about every written name from
  them.
-/

namespace QueryKit.Sql

open Text

/-! ## Trimming -/

/-- The six ASCII blanks that separate an alias are blanks of the trimmer. -/
theorem isBlank_of_isGap {c : Char} (h : isGap c = true) : isBlank c = true := by
  simp only [isGap, Bool.or_eq_true, beq_iff_eq] at h
  rcases h with ((((h | h) | h) | h) | h) | h <;> subst h <;> decide

theorem trimmed_eq (cs : List Char) : trimmed cs = (dropBlanks (dropBlanks cs).reverse).reverse := by
  simp only [trimmed, trim, String.toList_ofList]

/-- Dropping blanks in front leaves a suffix. -/
theorem dropBlanks_suffix : ∀ cs : List Char, ∃ pre, cs = pre ++ dropBlanks cs ∧ ∀ c ∈ pre, isBlank c = true
  | [] => ⟨[], rfl, by simp⟩
  | c :: cs => by
    by_cases hc : isBlank c = true
    · obtain ⟨pre, hpre, hblank⟩ := dropBlanks_suffix cs
      refine ⟨c :: pre, ?_, ?_⟩
      · simp only [dropBlanks, hc, ↓reduceIte, List.cons_append, ← hpre]
      · simpa [hc] using hblank
    · exact ⟨[], by simp [dropBlanks, hc], by simp⟩

theorem dropBlanks_length_le (cs : List Char) : (dropBlanks cs).length ≤ cs.length := by
  obtain ⟨pre, hpre, -⟩ := dropBlanks_suffix cs
  have h := congrArg List.length hpre
  simp only [List.length_append] at h
  omega

theorem trimmed_length_le (cs : List Char) : (trimmed cs).length ≤ cs.length := by
  rw [trimmed_eq, List.length_reverse]
  calc (dropBlanks (dropBlanks cs).reverse).length
      ≤ (dropBlanks cs).reverse.length := dropBlanks_length_le _
    _ ≤ cs.length := by rw [List.length_reverse]; exact dropBlanks_length_le cs

/-- A blank at the end of a text is dropped with the others. -/
theorem dropBlanks_append_blank {c : Char} (hc : isBlank c = true) :
    ∀ xs : List Char, dropBlanks (xs ++ [c]) = [] ∨ ∃ m, dropBlanks (xs ++ [c]) = m ++ [c] ∧ m.length ≤ xs.length
  | [] => .inl (by simp [dropBlanks, hc])
  | x :: xs => by
    by_cases hx : isBlank x = true
    · rcases dropBlanks_append_blank hc xs with h | ⟨m, hm, hlen⟩
      · exact .inl (by simpa [dropBlanks, hx] using h)
      · exact .inr ⟨m, by simpa [dropBlanks, hx] using hm, by simp; omega⟩
    · exact .inr ⟨x :: xs, by simp [dropBlanks, hx], Nat.le_refl _⟩

/-- **Trimming drops a blank at the end**: the trimmed text is shorter than the text. -/
theorem trimmed_append_blank_length {c : Char} (hc : isBlank c = true) (xs : List Char) :
    (trimmed (xs ++ [c])).length ≤ xs.length := by
  rw [trimmed_eq, List.length_reverse]
  rcases dropBlanks_append_blank hc xs with h | ⟨m, hm, hlen⟩
  · simp [h, dropBlanks]
  · rw [hm, List.reverse_append, List.reverse_singleton, List.singleton_append]
    have hstep : dropBlanks (c :: m.reverse) = dropBlanks m.reverse := by simp [dropBlanks, hc]
    rw [hstep]
    calc (dropBlanks m.reverse).length ≤ m.reverse.length := dropBlanks_length_le _
      _ = m.length := List.length_reverse
      _ ≤ xs.length := hlen

/-! ## Splits are shorter -/

/-- **Where a name splits**: at ` AS `, before an alias after a blank, or nowhere. -/
inductive Split where
  /-- At the first ` AS ` outside quotes. -/
  | asAlias (left right : List Char)
  /-- Before the last word, after a blank. -/
  | spaceAlias (left right : List Char)
  /-- Nowhere: the name is written as dotted parts. -/
  | whole
  deriving DecidableEq

/-- The split of a trimmed name, as `quoteChars` decides it: a name of alias characters only
splits at ` AS ` first, else before an alias. -/
def splitOf (cs : List Char) : Split :=
  if cs.all aliasChar then
    match splitAs [] none cs with
    | some (l, r) => .asAlias l r
    | none =>
      match splitSpaceAlias cs with
      | some (l, r) => .spaceAlias l r
      | none => .whole
  else .whole

/-- The parts of a name, each quoted, joined by dots. -/
def quoteDotted (q : Char) (cs : List Char) : List Char :=
  ".".toList.intercalate ((splitOutside '.' q cs).map (quotePart q))

/-- One character passed on to the characters before. -/
theorem splitAs_length_step {before rest l r : List Char} {c : Char}
    (h : l.length + r.length + 3 ≤ (c :: before).length + rest.length) :
    l.length + r.length + 3 ≤ before.length + (c :: rest).length := by
  simp only [List.length_cons] at h ⊢
  omega

/-- The two sides of a split at ` AS ` leave out at least the ` AS `: three characters more
than the characters passed before the scan started. The split leaves out the blank, the `AS` and
what trimming drops; every other step passes one character on and scans the rest. -/
theorem splitAs_length {before : List Char} {quote : Option Char} {cs l r : List Char} :
    splitAs before quote cs = some (l, r) → l.length + r.length + 3 ≤ before.length + cs.length := by
  fun_induction splitAs before quote cs with
  | case1 => intro h; cases h
  | case5 before c _ _ a s d tail _ left right _ =>
    intro h
    simp only [Option.some.injEq, Prod.mk.injEq] at h
    obtain ⟨rfl, rfl⟩ := h
    have hl : left.length ≤ before.reverse.length := trimmed_length_le before.reverse
    have hr : right.length ≤ (d :: tail).length := trimmed_length_le (d :: tail)
    simp only [List.length_reverse, List.length_cons] at hl hr ⊢
    omega
  | _ =>
    rename_i ih
    exact fun h => splitAs_length_step (ih h)

/-- The character at an index of a list, when it is a blank, is in the list. -/
theorem getD_gap_lt {cs : List Char} {i : Nat} (h : isGap (cs.getD i 'x') = true) : i < cs.length := by
  rcases Nat.lt_or_ge i cs.length with hi | hi
  · exact hi
  · rw [List.getD_eq_getElem?_getD, List.getElem?_eq_none hi] at h
    exact absurd h (by decide)

/-- The two sides of a split before an alias are shorter than the name: the name before the
alias ends with a blank that trimming drops, and the alias starts after it. -/
theorem splitSpaceAlias_length {cs l r : List Char} (h : splitSpaceAlias cs = some (l, r)) :
    l.length < cs.length ∧ r.length < cs.length := by
  unfold splitSpaceAlias at h
  dsimp only at h
  split at h
  · cases h
  split at h
  · cases h
  rename_i start _
  split at h
  · cases h
  rename_i hguard
  simp only [Bool.or_eq_true, beq_iff_eq, Bool.not_eq_true', not_or, Bool.not_eq_false] at hguard
  obtain ⟨hstart, hgap⟩ := hguard
  split at h
  · cases h
  simp only [Option.some.injEq, Prod.mk.injEq] at h
  obtain ⟨rfl, rfl⟩ := h
  obtain ⟨k, rfl⟩ : ∃ k, start = k + 1 := ⟨start - 1, by omega⟩
  simp only [Nat.add_sub_cancel] at hgap
  have hlt := getD_gap_lt hgap
  have htake : cs.take (k + 1) = cs.take k ++ [cs.getD k 'x'] := by
    rw [List.take_add_one, List.getD_eq_getElem?_getD, List.getElem?_eq_getElem hlt]
    rfl
  have hleft := trimmed_append_blank_length (isBlank_of_isGap hgap) (cs.take k)
  rw [← htake] at hleft
  have htake_len : (cs.take k).length ≤ k := List.length_take_le k cs
  refine ⟨by omega, ?_⟩
  simp only [List.length_drop, List.length_take]
  omega

theorem splitOf_asAlias_length {cs l r : List Char} (h : splitOf cs = .asAlias l r) :
    l.length < cs.length ∧ r.length < cs.length := by
  unfold splitOf at h
  split at h
  · split at h
    · rename_i hs
      cases h
      have := splitAs_length hs
      simp only [List.length_nil] at this
      omega
    · split at h <;> cases h
  · cases h

theorem splitOf_spaceAlias_length {cs l r : List Char} (h : splitOf cs = .spaceAlias l r) :
    l.length < cs.length ∧ r.length < cs.length := by
  unfold splitOf at h
  split at h
  · split at h
    · cases h
    · split at h
      · rename_i hs
        cases h
        exact splitSpaceAlias_length hs
      · cases h
  · cases h

/-! ## One level of the recursion -/

section

variable {q : Char} {fuel : Nat} {cs l r : List Char}

theorem quoteChars_asAlias (h : splitOf (trimmed cs) = .asAlias l r) :
    quoteChars q (fuel + 1) cs = quoteChars q fuel l ++ " AS ".toList ++ quoteChars q fuel r := by
  unfold splitOf at h
  rcases ha : (trimmed cs).all aliasChar with _ | _
  · simp [ha] at h
  rcases hs : splitAs [] none (trimmed cs) with _ | ⟨l', r'⟩
  · rcases hsa : splitSpaceAlias (trimmed cs) with _ | ⟨l', r'⟩ <;> simp [ha, hs, hsa] at h
  · simp only [ha, hs, ↓reduceIte, Split.asAlias.injEq] at h
    obtain ⟨rfl, rfl⟩ := h
    simp only [quoteChars, ha, hs, ↓reduceIte]

theorem quoteChars_spaceAlias (h : splitOf (trimmed cs) = .spaceAlias l r) :
    quoteChars q (fuel + 1) cs = quoteChars q fuel l ++ ' ' :: quoteChars q fuel r := by
  unfold splitOf at h
  rcases ha : (trimmed cs).all aliasChar with _ | _
  · simp [ha] at h
  rcases hs : splitAs [] none (trimmed cs) with _ | ⟨l', r'⟩
  · rcases hsa : splitSpaceAlias (trimmed cs) with _ | ⟨l', r'⟩
    · simp [ha, hs, hsa] at h
    · simp only [ha, hs, hsa, ↓reduceIte, Split.spaceAlias.injEq] at h
      obtain ⟨rfl, rfl⟩ := h
      simp only [quoteChars, ha, hs, hsa, ↓reduceIte]
  · simp [ha, hs] at h

theorem quoteChars_whole (h : splitOf (trimmed cs) = .whole) :
    quoteChars q (fuel + 1) cs = quoteDotted q (trimmed cs) := by
  unfold splitOf at h
  rcases ha : (trimmed cs).all aliasChar with _ | _
  · simp only [quoteChars, ha, Bool.false_eq_true, ↓reduceIte]
    rfl
  rcases hs : splitAs [] none (trimmed cs) with _ | ⟨l', r'⟩
  · rcases hsa : splitSpaceAlias (trimmed cs) with _ | ⟨l', r'⟩
    · simp only [quoteChars, ha, hs, hsa, ↓reduceIte]
      rfl
    · simp [ha, hs, hsa] at h
  · simp [ha, hs] at h

end

/-! ## Fuel enough -/

/-- **Fuel beyond the length is enough**: two such fuels write the same name, since every split
gives shorter sides. -/
theorem quoteChars_fuel (q : Char) :
    ∀ (f g : Nat) (cs : List Char), cs.length < f → cs.length < g → quoteChars q f cs = quoteChars q g cs
  | 0, _, _, hf, _ => absurd hf (Nat.not_lt_zero _)
  | _ + 1, 0, _, _, hg => absurd hg (Nat.not_lt_zero _)
  | f + 1, g + 1, cs, hf, hg => by
    have ht := trimmed_length_le cs
    cases hs : splitOf (trimmed cs) with
    | asAlias l r =>
      obtain ⟨hl, hr⟩ := splitOf_asAlias_length hs
      rw [quoteChars_asAlias hs, quoteChars_asAlias hs, quoteChars_fuel q f g l (by omega) (by omega),
        quoteChars_fuel q f g r (by omega) (by omega)]
    | spaceAlias l r =>
      obtain ⟨hl, hr⟩ := splitOf_spaceAlias_length hs
      rw [quoteChars_spaceAlias hs, quoteChars_spaceAlias hs, quoteChars_fuel q f g l (by omega) (by omega),
        quoteChars_fuel q f g r (by omega) (by omega)]
    | whole => rw [quoteChars_whole hs, quoteChars_whole hs]

/-- **Quoting without a bound**: the fuel `quoteName` gives, the length of the name plus one. -/
def quoteFull (q : Char) (cs : List Char) : List Char := quoteChars q (cs.length + 1) cs

theorem quoteName_eq_quoteFull (q : Char) (s : String) :
    quoteName q s = String.ofList (quoteFull q s.toList) := by
  rw [quoteName, quoteFull, String.length_toList]

theorem quoteChars_eq_quoteFull {q : Char} {fuel : Nat} {cs : List Char} (h : cs.length < fuel) :
    quoteChars q fuel cs = quoteFull q cs :=
  quoteChars_fuel q fuel (cs.length + 1) cs h (Nat.lt_succ_self _)

section

variable {q : Char} {cs l r : List Char}

theorem quoteFull_asAlias (h : splitOf (trimmed cs) = .asAlias l r) :
    quoteFull q cs = quoteFull q l ++ " AS ".toList ++ quoteFull q r := by
  obtain ⟨hl, hr⟩ := splitOf_asAlias_length h
  have ht := trimmed_length_le cs
  rw [quoteFull, quoteChars_asAlias h, quoteChars_eq_quoteFull (by omega),
    quoteChars_eq_quoteFull (by omega)]

theorem quoteFull_spaceAlias (h : splitOf (trimmed cs) = .spaceAlias l r) :
    quoteFull q cs = quoteFull q l ++ ' ' :: quoteFull q r := by
  obtain ⟨hl, hr⟩ := splitOf_spaceAlias_length h
  have ht := trimmed_length_le cs
  rw [quoteFull, quoteChars_spaceAlias h, quoteChars_eq_quoteFull (by omega),
    quoteChars_eq_quoteFull (by omega)]

theorem quoteFull_whole (h : splitOf (trimmed cs) = .whole) :
    quoteFull q cs = quoteDotted q (trimmed cs) :=
  quoteChars_whole h

end

/-- **Induction along the recursion of quoting**: a property of every name holds once it holds
of a name whenever it holds of the two sides of its split. -/
@[elab_as_elim]
theorem quoteFull_induction {motive : List Char → Prop}
    (asAlias : ∀ cs l r, splitOf (trimmed cs) = .asAlias l r → motive l → motive r → motive cs)
    (spaceAlias : ∀ cs l r, splitOf (trimmed cs) = .spaceAlias l r → motive l → motive r → motive cs)
    (whole : ∀ cs, splitOf (trimmed cs) = .whole → motive cs) (cs : List Char) : motive cs := by
  have ht := trimmed_length_le cs
  cases hs : splitOf (trimmed cs) with
  | asAlias l r =>
    have hlen := splitOf_asAlias_length hs
    exact asAlias cs l r hs (quoteFull_induction asAlias spaceAlias whole l)
      (quoteFull_induction asAlias spaceAlias whole r)
  | spaceAlias l r =>
    have hlen := splitOf_spaceAlias_length hs
    exact spaceAlias cs l r hs (quoteFull_induction asAlias spaceAlias whole l)
      (quoteFull_induction asAlias spaceAlias whole r)
  | whole => exact whole cs hs
termination_by cs.length
decreasing_by all_goals omega

end QueryKit.Sql
