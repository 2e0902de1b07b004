import Mathlib
import QueryKit.Proofs.Identifier.Recursion
import QueryKit.Proofs.Marker.Scan

/-!
# Names in their documented forms

The forms a name is documented to take. A *path* is plain names and `*` joined by dots; it is
written with every name between quote characters and `*` bare. A path, blanks, `AS` in any case,
blanks and a plain name is written as the two with ` AS ` between; a path longer than one
character, blanks and a plain name is written as the two with one blank between. Blanks around
the whole are dropped.

* `PlainName`, `PathStep`, `Path`: the forms, and `Path.quoted`, `PlainName.quoted` what they are
  written as;
* `splitAs_gaps_as`, `splitAs_gaps_word`, `splitSpaceAlias_word`: how the alias scanners read a
  blank run followed by `AS` or by a word;
* `quoteFull_path`, `quoteFull_path_as`, `quoteFull_path_alias`: the three forms, each by the
  split `splitOf` finds in it;
* `quoteName_documented_forms`: the main statement.
-/

namespace QueryKit.Sql

open Text

/-! ## Characters -/

/-- **Word characters**: ASCII letters and digits, and `_`. -/
def IsWordChar (c : Char) : Prop := c.isAlphanum = true ∨ c = '_'

instance : DecidablePred IsWordChar := fun c => inferInstanceAs (Decidable (c.isAlphanum = true ∨ c = '_'))

/-- **Characters of paths**: word characters, dots and stars. -/
def IsPathChar (c : Char) : Prop := IsWordChar c ∨ c = '.' ∨ c = '*'

instance : DecidablePred IsPathChar :=
  fun c => inferInstanceAs (Decidable (IsWordChar c ∨ c = '.' ∨ c = '*'))

/-- Letters and digits are the three ASCII ranges. -/
theorem isAlphanum_ranges {c : Char} (h : c.isAlphanum = true) :
    (48 ≤ c.toNat ∧ c.toNat ≤ 57) ∨ (65 ≤ c.toNat ∧ c.toNat ≤ 90) ∨ (97 ≤ c.toNat ∧ c.toNat ≤ 122) := by
  simp [Char.isAlphanum, Char.isAlpha, Char.isUpper, Char.isLower, Char.isDigit,
    UInt32.le_iff_toNat_le] at h
  omega

/-- What a word character is not: a blank, a quote, a dot or a star; and it may stand in a name
that carries an alias. Every character the facts exclude lies outside the three ranges of letters
and digits. -/
theorem IsWordChar.facts {c : Char} (h : IsWordChar c) :
    isGap c = false ∧ isBlank c = false ∧ c ≠ '"' ∧ c ≠ '\x60' ∧ c ≠ '.' ∧ c ≠ '*' ∧
      aliasChar c = true := by
  rcases h with h | rfl
  · have hr := isAlphanum_ranges h
    have hn : ∀ d : Char, c = d → c.toNat = d.toNat := fun d h => h ▸ rfl
    refine ⟨?_, ?_, ?_, ?_, ?_, ?_, ?_⟩
    · simp only [isGap, Bool.or_eq_false_iff, beq_eq_false_iff_ne]
      refine ⟨⟨⟨⟨⟨?_, ?_⟩, ?_⟩, ?_⟩, ?_⟩, ?_⟩ <;> intro h' <;> have := hn _ h' <;> simp at this <;> omega
    · simp only [isBlank, Bool.or_eq_false_iff, beq_eq_false_iff_ne, Bool.and_eq_false_iff,
        decide_eq_false_iff_not]
      omega
    all_goals try (intro h'; have := hn _ h'; simp at this; omega)
    have h128 : c.toNat < 128 := by omega
    simp only [aliasChar, h, Bool.true_and, decide_eq_true h128, Bool.true_or]
  · decide

theorem IsPathChar.facts {c : Char} (h : IsPathChar c) :
    isGap c = false ∧ isBlank c = false ∧ c ≠ '"' ∧ c ≠ '\x60' ∧ aliasChar c = true := by
  rcases h with h | rfl | rfl
  · obtain ⟨h₁, h₂, h₃, h₄, -, -, h₇⟩ := h.facts
    exact ⟨h₁, h₂, h₃, h₄, h₇⟩
  all_goals decide

/-- A blank of the alias scanners is neither a quote nor a letter. -/
theorem isGap_facts {c : Char} (h : isGap c = true) :
    c ≠ '"' ∧ c ≠ '\x60' ∧ c ≠ 'a' ∧ c ≠ 'A' ∧ aliasChar c = true := by
  simp only [isGap, Bool.or_eq_true, beq_iff_eq] at h
  rcases h with ((((h | h) | h) | h) | h) | h <;> subst h <;> decide

/-! ## The forms -/

/-- **Plain names**: one or more word characters. -/
structure PlainName where
  text : String
  nonempty : text.toList ≠ []
  word : ∀ c ∈ text.toList, IsWordChar c

/-- **Steps of a path**: a plain name, or `*`. -/
inductive PathStep where
  | name (n : PlainName)
  | star

/-- **Paths**: one or more steps joined by dots. -/
structure Path where
  steps : List PathStep
  nonempty : steps ≠ []

/-- A plain name as written: between quote characters. -/
def PlainName.quoted (q : Char) (n : PlainName) : String :=
  String.singleton q ++ n.text ++ String.singleton q

namespace PathStep

/-- The text of a step. -/
def text : PathStep → String
  | .name n => n.text
  | .star => "*"

/-- A step as written: a name quoted, `*` bare. -/
def quoted (q : Char) : PathStep → String
  | .name n => n.quoted q
  | .star => "*"

end PathStep

/-- The text of a path: its steps joined by dots. -/
def Path.text (p : Path) : String := ".".intercalate (p.steps.map PathStep.text)

/-- **A path as written**: its steps written and joined by dots. -/
def Path.quoted (q : Char) (p : Path) : String := ".".intercalate (p.steps.map (PathStep.quoted q))

/-- A plain name is a path of one step. -/
def PlainName.path (n : PlainName) : Path := ⟨[.name n], List.cons_ne_nil _ _⟩

@[simp] theorem PlainName.path_text (n : PlainName) : n.path.text = n.text := by
  simp [path, Path.text, PathStep.text, String.intercalate_singleton]

@[simp] theorem PlainName.path_quoted (q : Char) (n : PlainName) : n.path.quoted q = n.quoted q := by
  simp [path, Path.quoted, PathStep.quoted, String.intercalate_singleton]

/-- A character of a text joined by dots is a dot or a character of a part. -/
theorem mem_intercalate_dot {c : Char} :
    ∀ {ls : List (List Char)}, c ∈ ['.'].intercalate ls → c = '.' ∨ ∃ l ∈ ls, c ∈ l
  | [], h => by simp at h
  | [l], h => .inr ⟨l, by simp, by simpa using h⟩
  | l :: l' :: ls, h => by
    rw [List.intercalate_cons_cons] at h
    simp only [List.mem_append, List.mem_singleton] at h
    rcases h with (h | h) | h
    · exact .inr ⟨l, by simp, h⟩
    · exact .inl h
    · rcases mem_intercalate_dot h with h | ⟨l'', hl'', hc⟩
      · exact .inl h
      · exact .inr ⟨l'', List.mem_cons_of_mem _ hl'', hc⟩

theorem PathStep.text_ne_nil : ∀ s : PathStep, s.text.toList ≠ []
  | .name n => n.nonempty
  | .star => by decide

theorem PathStep.text_chars : ∀ (s : PathStep), ∀ c ∈ s.text.toList, IsWordChar c ∨ c = '*'
  | .name n, c, hc => .inl (n.word c hc)
  | .star, c, hc => by
    simp only [text, show "*".toList = ['*'] from rfl, List.mem_singleton] at hc
    exact .inr hc

theorem Path.text_toList (p : Path) :
    p.text.toList = ['.'].intercalate (p.steps.map (fun s => s.text.toList)) := by
  simp [Path.text, String.toList_intercalate, Function.comp_def]

theorem Path.quoted_toList (q : Char) (p : Path) :
    (p.quoted q).toList = ['.'].intercalate (p.steps.map (fun s => (s.quoted q).toList)) := by
  simp [Path.quoted, String.toList_intercalate, Function.comp_def]

theorem Path.text_chars (p : Path) : ∀ c ∈ p.text.toList, IsPathChar c := by
  intro c hc
  rw [Path.text_toList] at hc
  rcases mem_intercalate_dot hc with rfl | ⟨l, hl, hc⟩
  · exact .inr (.inl rfl)
  · obtain ⟨s, -, rfl⟩ := List.mem_map.mp hl
    rcases s.text_chars c hc with h | h
    · exact .inl h
    · exact .inr (.inr h)

theorem Path.text_ne_nil (p : Path) : p.text.toList ≠ [] := by
  obtain ⟨s, ss, hs⟩ := List.exists_cons_of_ne_nil p.nonempty
  rw [Path.text_toList, hs]
  cases ss with
  | nil => simpa using s.text_ne_nil
  | cons s' ss => simp [List.intercalate_cons_cons, s.text_ne_nil]

/-! ## Trimming around a form -/

theorem dropBlanks_blank_append {u : List Char} (hu : ∀ c ∈ u, isBlank c = true) (m : List Char) :
    dropBlanks (u ++ m) = dropBlanks m := by
  induction u with
  | nil => rfl
  | cons c u ih =>
    simp only [List.mem_cons, forall_eq_or_imp] at hu
    simp [dropBlanks, hu.1, ih hu.2]

theorem dropBlanks_of_head? {m : List Char} (h : ∀ c ∈ m.head?, isBlank c = false) :
    dropBlanks m = m := by
  cases m with
  | nil => rfl
  | cons c m => simp [dropBlanks, h c rfl]

/-- **Blanks around a text are trimmed**, when the text neither starts nor ends with one. -/
theorem trimmed_around {u m v : List Char} (hu : ∀ c ∈ u, isBlank c = true)
    (hv : ∀ c ∈ v, isBlank c = true) (hm : m ≠ []) (hhead : ∀ c ∈ m.head?, isBlank c = false)
    (hlast : ∀ c ∈ m.getLast?, isBlank c = false) : trimmed (u ++ m ++ v) = m := by
  have hfront : dropBlanks (u ++ m ++ v) = m ++ v := by
    rw [List.append_assoc, dropBlanks_blank_append hu, dropBlanks_of_head?]
    obtain ⟨c, m', rfl⟩ := List.exists_cons_of_ne_nil hm
    simpa using hhead
  have hback : dropBlanks (v.reverse ++ m.reverse) = m.reverse := by
    rw [dropBlanks_blank_append (by simpa using hv), dropBlanks_of_head?]
    simpa [List.head?_reverse] using hlast
  rw [trimmed_eq, hfront, List.reverse_append, hback, List.reverse_reverse]

/-- A path is its own trimmed text, with blanks around it trimmed. -/
theorem Path.trimmed_around (p : Path) {u v : List Char} (hu : ∀ c ∈ u, isBlank c = true)
    (hv : ∀ c ∈ v, isBlank c = true) : trimmed (u ++ p.text.toList ++ v) = p.text.toList :=
  Sql.trimmed_around hu hv p.text_ne_nil
    (fun c hc => (p.text_chars c (List.mem_of_mem_head? hc)).facts.2.1)
    (fun c hc => (p.text_chars c (List.mem_of_mem_getLast? hc)).facts.2.1)

/-! ## Texts without blanks do not split -/

/-- A text without blanks has no split at ` AS `: a split needs a blank outside quotes. -/
theorem splitAs_of_no_gap {before : List Char} {quote : Option Char} {cs : List Char}
    (h : ∀ c ∈ cs, isGap c = false) : splitAs before quote cs = none := by
  fun_induction splitAs before quote cs with
  | case1 => rfl
  | case5 before c _ hgap a s d tail _ left right _ =>
    simp only [Bool.not_eq_true', Bool.not_eq_false] at hgap
    exact absurd (h c (by simp)) (by simp [hgap])
  | _ =>
    rename_i ih
    exact ih (fun c hc => h c (List.mem_cons_of_mem _ hc))

theorem getD_not_gap {cs : List Char} (h : ∀ c ∈ cs, isGap c = false) (i : Nat) :
    isGap (cs.getD i 'x') = false := by
  rw [List.getD_eq_getElem?_getD]
  cases hi : cs[i]? with
  | none => rfl
  | some c => exact h c (List.mem_of_getElem? hi)

/-- A text without blanks has no split before an alias: whatever the start, the character before
it is no blank. -/
theorem splitSpaceAlias_of_no_gap {cs : List Char} (h : ∀ c ∈ cs, isGap c = false) :
    splitSpaceAlias cs = none := by
  unfold splitSpaceAlias
  dsimp only
  split
  · rfl
  split
  · rfl
  rename_i start _
  have hx := getD_not_gap h (start - 1)
  rw [List.getD_eq_getElem?_getD] at hx
  simp [hx]

/-- **A text without blanks is written whole.** -/
theorem splitOf_of_no_gap {cs : List Char} (h : ∀ c ∈ cs, isGap c = false) : splitOf cs = .whole := by
  unfold splitOf
  split
  · rw [splitAs_of_no_gap h, splitSpaceAlias_of_no_gap h]
  · rfl

/-! ## Parts between dots -/

/-- **Parts that stand whole between dots**: no dot, and either no quote character or one at each
end and none inside. -/
def SimplePart (q : Char) (t : List Char) : Prop :=
  (∀ c ∈ t, c ≠ q ∧ c ≠ '.') ∨ ∃ n, t = q :: (n ++ [q]) ∧ ∀ c ∈ n, c ≠ q ∧ c ≠ '.'

section

variable {q : Char}

theorem go_plain {p : List Char} (hp : ∀ c ∈ p, c ≠ q ∧ c ≠ '.') (rest : List Char) (b : Bool)
    (cur : List Char) :
    splitOutside.go '.' q (p ++ rest) b cur = splitOutside.go '.' q rest b (p.reverse ++ cur) := by
  induction p generalizing cur with
  | nil => rfl
  | cons c p ih =>
    simp only [List.mem_cons, forall_eq_or_imp] at hp
    simp [splitOutside.go, hp.1.1, hp.1.2, ih hp.2]

/-- Splitting at dots passes a simple part whole: the opening quote of a quoted part turns quoting
on, and the closing one off. -/
theorem go_simplePart {t : List Char} (ht : SimplePart q t) (rest cur : List Char) :
    splitOutside.go '.' q (t ++ rest) false cur = splitOutside.go '.' q rest false (t.reverse ++ cur) := by
  rcases ht with ht | ⟨n, rfl, hn⟩
  · exact go_plain ht rest false cur
  · simp only [List.cons_append, List.append_assoc]
    rw [splitOutside.go, if_pos (beq_self_eq_true q), go_plain hn]
    simp [splitOutside.go]

/-- Splitting starts outside quotes with no part read; the empty text is one empty part. -/
theorem splitOutside_eq_go (sep : Char) (cs : List Char) :
    splitOutside sep q cs = splitOutside.go sep q cs false [] := by
  cases cs <;> rfl

/-- **Parts joined by dots are split back** where each stands whole. -/
theorem splitOutside_intercalate (hq : q ≠ '.') :
    ∀ (t : List Char) (ts : List (List Char)), SimplePart q t → (∀ t' ∈ ts, SimplePart q t') →
      splitOutside '.' q (['.'].intercalate (t :: ts)) = t :: ts := by
  have hgo : ∀ (t : List Char) (ts : List (List Char)), SimplePart q t → (∀ t' ∈ ts, SimplePart q t') →
      splitOutside.go '.' q (['.'].intercalate (t :: ts)) false [] = t :: ts := by
    intro t ts
    induction ts generalizing t with
    | nil =>
      intro ht _
      simpa [splitOutside.go] using go_simplePart ht [] []
    | cons t' ts ih =>
      intro ht hts
      rw [List.intercalate_cons_cons, List.append_assoc, go_simplePart ht, List.singleton_append,
        splitOutside.go]
      have hdot : ('.' == q) = false := by simpa using (Ne.symm hq)
      simp only [hdot, Bool.false_eq_true, ↓reduceIte, beq_self_eq_true, Bool.not_false,
        Bool.and_self, List.reverse_reverse, List.append_nil]
      rw [ih t' (hts t' (by simp)) (fun x hx => hts x (by simp [hx]))]
  intro t ts ht hts
  rw [splitOutside_eq_go]
  exact hgo t ts ht hts

end

/-! ## Writing the parts of a path -/

theorem flatMap_escape_of_not_mem {q : Char} {n : List Char} (hn : ∀ c ∈ n, c ≠ q) :
    n.flatMap (fun c => if c == q then [q, q] else [c]) = n := by
  induction n with
  | nil => rfl
  | cons c n ih =>
    simp only [List.mem_cons, forall_eq_or_imp] at hn
    have hc : (c == q) = false := by simpa using hn.1
    simp only [List.flatMap_cons, hc, Bool.false_eq_true, ↓reduceIte, ih hn.2, List.singleton_append]

section

variable {q : Char}

/-- **A plain name is quoted** as it is, between two quote characters. -/
theorem quotePart_word (hq : q = '"' ∨ q = '\x60') {n : List Char} (hne : n ≠ [])
    (hn : ∀ c ∈ n, IsWordChar c) : quotePart q n = q :: (n ++ [q]) := by
  have hnq : ∀ c ∈ n, c ≠ q := fun c hc => by
    obtain ⟨-, -, h₃, h₄, -⟩ := (hn c hc).facts
    rcases hq with rfl | rfl
    · exact h₃
    · exact h₄
  obtain ⟨c, n', rfl⟩ := List.exists_cons_of_ne_nil hne
  have hstar : (c :: n' == ['*']) = false := by
    have hc : c ≠ '*' := ((hn c (by simp)).facts).2.2.2.2.2.1
    simp [hc]
  have hquoted : isQuotedPart q (c :: n') = false := by
    simp [isQuotedPart, hnq c (by simp)]
  simp only [quotePart, hstar, hquoted, Bool.or_self, Bool.false_eq_true, ↓reduceIte,
    flatMap_escape_of_not_mem hnq]

theorem quotePart_star : quotePart q ['*'] = ['*'] := by
  simp [quotePart]

/-- **A quoted name stays as it is.** -/
theorem quotePart_quoted {n : List Char} (hn : ∀ c ∈ n, c ≠ q) :
    quotePart q (q :: (n ++ [q])) = q :: (n ++ [q]) := by
  have hbody : doubledOnly q n = true := by
    induction n with
    | nil => rfl
    | cons c n ih =>
      simp only [List.mem_cons, forall_eq_or_imp] at hn
      rw [doubledOnly.eq_def]
      simpa [hn.1] using ih hn.2
  have hlast : (q :: (n ++ [q])).getLast? = some q := by
    rw [← List.cons_append, List.getLast?_concat]
  have hquoted : isQuotedPart q (q :: (n ++ [q])) = true := by
    simp [isQuotedPart, hbody, hlast]
  simp [quotePart, hquoted]

theorem PathStep.quotePart_text (hq : q = '"' ∨ q = '\x60') :
    ∀ s : PathStep, quotePart q s.text.toList = (s.quoted q).toList
  | .name n => by
    rw [text, quotePart_word hq n.nonempty n.word]
    simp [quoted, PlainName.quoted]
  | .star => by
    simp only [text, quoted, show "*".toList = ['*'] from rfl]
    exact quotePart_star

theorem PathStep.text_simplePart (hq : q = '"' ∨ q = '\x60') (s : PathStep) :
    SimplePart q s.text.toList := by
  refine .inl fun c hc => ?_
  rcases s.text_chars c hc with hw | rfl
  · obtain ⟨-, -, h₃, h₄, h₅, -, -⟩ := hw.facts
    rcases hq with rfl | rfl
    · exact ⟨h₃, h₅⟩
    · exact ⟨h₄, h₅⟩
  · rcases hq with rfl | rfl <;> decide

/-- **The dotted form of a path** is the path as written. -/
theorem quoteDotted_path (hq : q = '"' ∨ q = '\x60') (p : Path) :
    quoteDotted q p.text.toList = (p.quoted q).toList := by
  have hdot : q ≠ '.' := by rcases hq with rfl | rfl <;> decide
  obtain ⟨s, ss, hs⟩ := List.exists_cons_of_ne_nil p.nonempty
  rw [quoteDotted, Path.text_toList, Path.quoted_toList, hs, List.map_cons,
    show ".".toList = ['.'] from rfl,
    splitOutside_intercalate hdot _ _ (s.text_simplePart hq)
      (fun t ht => by obtain ⟨s', -, rfl⟩ := List.mem_map.mp ht; exact s'.text_simplePart hq)]
  simp [Function.comp_def, PathStep.quotePart_text hq]

end

/-! ## Blanks, `AS` and aliases -/

theorem splitAs_plain_cons {c : Char} (hc : c ≠ '"' ∧ c ≠ '\x60') (hg : isGap c = false)
    (before rest : List Char) : splitAs before none (c :: rest) = splitAs (c :: before) none rest := by
  rw [splitAs.eq_def]
  simp [hc.1, hc.2, hg]

theorem splitAs_plain_append {xs : List Char} (h : ∀ c ∈ xs, (c ≠ '"' ∧ c ≠ '\x60') ∧ isGap c = false)
    (before ys : List Char) : splitAs before none (xs ++ ys) = splitAs (xs.reverse ++ before) none ys := by
  induction xs generalizing before with
  | nil => rfl
  | cons c xs ih =>
    simp only [List.mem_cons, forall_eq_or_imp] at h
    rw [List.cons_append, splitAs_plain_cons h.1.1 h.1.2, ih h.2]
    simp

/-- A blank before a character that does not start `AS` is passed on. -/
theorem splitAs_gap_not_as {g x : Char} (hg : isGap g = true) (hx : x ≠ 'a' ∧ x ≠ 'A')
    (before rest : List Char) :
    splitAs before none (g :: x :: rest) = splitAs (g :: before) none (x :: rest) := by
  obtain ⟨h1, h2, -, -, -⟩ := isGap_facts hg
  rw [splitAs.eq_def]
  rcases rest with _ | ⟨s, _ | ⟨d, tail⟩⟩ <;> simp [h1, h2, hg, hx.1, hx.2]

/-- A blank before another blank is passed on: no `AS` can follow it. -/
theorem splitAs_gap_gap {g g' : Char} (hg : isGap g = true) (hg' : isGap g' = true) (before rest : List Char) :
    splitAs before none (g :: g' :: rest) = splitAs (g :: before) none (g' :: rest) := by
  obtain ⟨-, -, h3, h4, -⟩ := isGap_facts hg'
  exact splitAs_gap_not_as hg ⟨h3, h4⟩ before rest

/-- **The split at ` AS `**: a blank, `AS` in any case and a blank, outside quotes, with text on
both sides. -/
theorem splitAs_gap_as {g x₁ x₂ d : Char} (hg : isGap g = true)
    (hx : ((x₁ == 'a' || x₁ == 'A') && (x₂ == 's' || x₂ == 'S')) = true) (hd : isGap d = true)
    {before tail : List Char} (hl : trimmed before.reverse ≠ []) (hr : trimmed (d :: tail) ≠ []) :
    splitAs before none (g :: x₁ :: x₂ :: d :: tail) = some (trimmed before.reverse, trimmed (d :: tail)) := by
  obtain ⟨h1, h2, -, -, -⟩ := isGap_facts hg
  have hl' : (trimmed before.reverse).isEmpty = false := by simpa using hl
  have hr' : (trimmed (d :: tail)).isEmpty = false := by simpa using hr
  have hc : (g == '"' || g == '\x60') = false := by simp [h1, h2]
  have hcond : ((x₁ == 'a' || x₁ == 'A') && (x₂ == 's' || x₂ == 'S') && isGap d) = true := by
    rw [hx, hd]; rfl
  rw [splitAs.eq_def]
  simp only [hc, Bool.false_eq_true, ↓reduceIte, hg, Bool.not_true]
  rw [if_pos hcond, hl', hr']
  rfl

/-- A run of blanks, `AS` and a blank split there: the scan passes the blanks on, and the last
blank of the run is the one before `AS`. -/
theorem splitAs_gaps_as {x₁ x₂ d : Char}
    (hx : ((x₁ == 'a' || x₁ == 'A') && (x₂ == 's' || x₂ == 'S')) = true) (hd : isGap d = true)
    {tail : List Char} (hr : trimmed (d :: tail) ≠ []) (w : List Char) :
    ∀ {before : List Char}, w ≠ [] → (∀ c ∈ w, isGap c = true) →
      trimmed (before.reverse ++ w.dropLast) ≠ [] →
      splitAs before none (w ++ x₁ :: x₂ :: d :: tail) =
        some (trimmed (before.reverse ++ w.dropLast), trimmed (d :: tail)) := by
  induction w with
  | nil => intro _ h; exact absurd rfl h
  | cons g w ih =>
    intro before _ hw hl
    cases w with
    | nil =>
      have hl' : trimmed before.reverse ≠ [] := by simpa using hl
      rw [List.singleton_append, splitAs_gap_as (hw g (by simp)) hx hd hl' hr]
      simp
    | cons g' w =>
      have hwg : ∀ c ∈ g' :: w, isGap c = true := fun c hc => hw c (List.mem_cons_of_mem _ hc)
      have hlist : (g :: before).reverse ++ (g' :: w).dropLast =
          before.reverse ++ (g :: g' :: w).dropLast := by
        simp [List.dropLast_cons_of_ne_nil]
      rw [List.cons_append, List.cons_append, splitAs_gap_gap (hw g (by simp)) (hwg g' (by simp)),
        ← List.cons_append, ih (List.cons_ne_nil _ _) hwg (by rwa [hlist]), hlist]

/-- A blank followed by a word without blanks does not split. -/
theorem splitAs_gap_word {g : Char} (hg : isGap g = true) {rest : List Char}
    (hrest : ∀ c ∈ rest, isGap c = false) (before : List Char) : splitAs before none (g :: rest) = none := by
  obtain ⟨h1, h2, -, -, -⟩ := isGap_facts hg
  have hnext : splitAs (g :: before) none rest = none := splitAs_of_no_gap hrest
  rw [splitAs.eq_def]
  rcases rest with _ | ⟨a, _ | ⟨s, _ | ⟨d, tail⟩⟩⟩
  · simpa [h1, h2, hg] using hnext
  · simpa [h1, h2, hg] using hnext
  · simpa [h1, h2, hg] using hnext
  · have hd : isGap d = false := hrest d (by simp)
    simpa [h1, h2, hg, hd] using hnext

theorem splitAs_gaps_word {rest : List Char} (hrest : ∀ c ∈ rest, isGap c = false) :
    ∀ {w : List Char} {before : List Char}, w ≠ [] → (∀ c ∈ w, isGap c = true) →
      splitAs before none (w ++ rest) = none
  | [g], before, _, hw => splitAs_gap_word (hw g (by simp)) hrest before
  | g :: g' :: w, before, _, hw => by
    have hwg : ∀ c ∈ g' :: w, isGap c = true := fun c hc => hw c (List.mem_cons_of_mem _ hc)
    rw [List.cons_append, List.cons_append, splitAs_gap_gap (hw g (by simp)) (hwg g' (by simp)),
      ← List.cons_append]
    exact splitAs_gaps_word hrest (List.cons_ne_nil _ _) hwg

theorem lastGapBefore_append_of_le {xs ys : List Char} :
    ∀ {i : Nat}, i ≤ xs.length → lastGapBefore (xs ++ ys) i = lastGapBefore xs i
  | 0, _ => rfl
  | i + 1, h => by
    have hget : (xs ++ ys).getD i 'x' = xs.getD i 'x' := by
      simp only [List.getD_eq_getElem?_getD, List.getElem?_append_left (by omega : i < xs.length)]
    simp only [lastGapBefore, hget, lastGapBefore_append_of_le (by omega : i ≤ xs.length)]

/-- The scan back for a blank passes over a word without blanks. -/
theorem lastGapBefore_skip_word {xs ys : List Char} (hys : ∀ c ∈ ys, isGap c = false) :
    ∀ k ≤ ys.length, lastGapBefore (xs ++ ys) (xs.length + k) = lastGapBefore xs xs.length
  | 0, _ => lastGapBefore_append_of_le (Nat.le_refl _)
  | k + 1, hk => by
    have hget : isGap ((xs ++ ys).getD (xs.length + k) 'x') = false := by
      rw [List.getD_eq_getElem?_getD, List.getElem?_append_right (by omega), Nat.add_sub_cancel_left,
        List.getElem?_eq_getElem (by omega)]
      exact hys _ (List.getElem_mem _)
    rw [← Nat.add_assoc, lastGapBefore, hget]
    exact lastGapBefore_skip_word hys k (by omega)

theorem lastGapBefore_snoc_gap {xs : List Char} {g : Char} (hg : isGap g = true) :
    lastGapBefore (xs ++ [g]) (xs.length + 1) = some xs.length := by
  simp [lastGapBefore, List.getD_eq_getElem?_getD, hg]

/-- **Where the split before an alias lands**: the text ends with no blank, and the scan back from
its end (to the opening quote when it ends with a quote, else to the last blank) stops right after
the blank `g`; the text splits there, once the part before is longer than one character when
trimmed. -/
theorem splitSpaceAlias_at {l r : List Char} {g z : Char} (hg : isGap g = true) (hz : isGap z = false)
    (hl : 1 < (trimmed (l ++ [g])).length)
    (hquote : (z == '"' || z == '\x60') = true →
      lastIndexBefore (l ++ [g] ++ (r ++ [z])) z ((l ++ [g] ++ (r ++ [z])).length - 1) = some (l.length + 1))
    (hword : (z == '"' || z == '\x60') = false →
      lastGapBefore (l ++ [g] ++ (r ++ [z])) (l ++ [g] ++ (r ++ [z])).length = some l.length) :
    splitSpaceAlias (l ++ [g] ++ (r ++ [z])) = some (trimmed (l ++ [g]), r ++ [z]) := by
  have htrail : List.takeWhile isGap (l ++ [g] ++ (r ++ [z])).reverse = [] := by
    simp [hz]
  have hlen0 : ((l ++ [g] ++ (r ++ [z])).length == 0) = false := by simp
  have hlast : (l ++ [g] ++ (r ++ [z])).getD ((l ++ [g] ++ (r ++ [z])).length - 1) ' ' = z := by
    rw [← List.append_assoc, List.length_append, List.length_singleton, Nat.add_sub_cancel,
      List.getD_eq_getElem?_getD, List.getElem?_concat_length]
    rfl
  have hstart : (l ++ [g] ++ (r ++ [z])).getD (l.length + 1 - 1) 'x' = g := by
    rw [Nat.add_sub_cancel, List.getD_eq_getElem?_getD, List.getElem?_append_left (by simp)]
    simp
  have htake : (l ++ [g] ++ (r ++ [z])).take (l.length + 1) = l ++ [g] :=
    List.take_left' (by simp)
  have hdrop : ((l ++ [g] ++ (r ++ [z])).take (l ++ [g] ++ (r ++ [z])).length).drop (l.length + 1) =
      r ++ [z] := by
    rw [List.take_length]
    exact List.drop_left' (by simp)
  have hstart0 : (l.length + 1 == 0) = false := by simp
  unfold splitSpaceAlias
  simp only [htrail, List.length_nil, Nat.sub_zero, hlen0, Bool.false_eq_true, ↓reduceIte, hlast]
  cases hzq : (z == '"' || z == '\x60') <;>
    simp only [hword, hquote, hzq, Bool.false_eq_true, ↓reduceIte, hstart, hg, hstart0, Bool.not_true,
      Bool.or_self, htake, hdrop] <;>
    rw [if_neg (by omega)]

/-- **The split before an alias**: a word without blanks, not ending in a quote, after a blank,
and before the blank a text longer than one character once trimmed. The word is no quoted part,
so the scan back stops at the last blank, which is `g`. -/
theorem splitSpaceAlias_snoc_word {l w' a' : List Char} {g z : Char} (hg : isGap g = true)
    (hz : isGap z = false) (hag : ∀ c ∈ a', isGap c = false) (hzq : z ≠ '"' ∧ z ≠ '\x60')
    (hl : 1 < (trimmed (l ++ (w' ++ [g]))).length) :
    splitSpaceAlias (l ++ (w' ++ [g]) ++ (a' ++ [z])) = some (trimmed (l ++ (w' ++ [g])), a' ++ [z]) := by
  rw [← List.append_assoc l] at hl ⊢
  have hzq' : (z == '"' || z == '\x60') = false := by simp [hzq.1, hzq.2]
  have hys : ∀ c ∈ a' ++ [z], isGap c = false := by
    intro c hc
    simp only [List.mem_append, List.mem_singleton] at hc
    rcases hc with hc | rfl
    · exact hag c hc
    · exact hz
  refine splitSpaceAlias_at hg hz hl (fun h => absurd (hzq'.symm.trans h) Bool.false_ne_true) fun _ => ?_
  rw [List.length_append, lastGapBefore_skip_word hys _ (Nat.le_refl _), List.length_append,
    List.length_singleton, lastGapBefore_snoc_gap hg]

theorem splitSpaceAlias_word {l w a : List Char} (hw : w ≠ []) (hwg : ∀ c ∈ w, isGap c = true)
    (ha : a ≠ []) (hag : ∀ c ∈ a, isGap c = false) (haq : ∀ c ∈ a.getLast?, c ≠ '"' ∧ c ≠ '\x60')
    (hl : 1 < (trimmed (l ++ w)).length) :
    splitSpaceAlias (l ++ w ++ a) = some (trimmed (l ++ w), a) := by
  obtain ⟨w', g, rfl⟩ := List.eq_nil_or_concat w |>.resolve_left hw
  obtain ⟨a', z, rfl⟩ := List.eq_nil_or_concat a |>.resolve_left ha
  simp only [List.concat_eq_append] at *
  exact splitSpaceAlias_snoc_word (hwg g (by simp)) (hag z (by simp))
    (fun c hc => hag c (by simp [hc])) (haq z (by simp)) hl

/-! ## The three forms -/

/-- **`AS` in any case**: its two letters. -/
theorem asWord_chars {x : String} (hx : x ∈ ["AS", "As", "aS", "as"]) :
    ∃ x₁ x₂, x.toList = [x₁, x₂] ∧ ((x₁ == 'a' || x₁ == 'A') && (x₂ == 's' || x₂ == 'S')) = true ∧
      aliasChar x₁ = true ∧ aliasChar x₂ = true := by
  simp only [List.mem_cons, List.not_mem_nil, or_false] at hx
  rcases hx with rfl | rfl | rfl | rfl
  · exact ⟨'A', 'S', rfl, by decide, by decide, by decide⟩
  · exact ⟨'A', 's', rfl, by decide, by decide, by decide⟩
  · exact ⟨'a', 'S', rfl, by decide, by decide, by decide⟩
  · exact ⟨'a', 's', rfl, by decide, by decide, by decide⟩

section

variable {q : Char}

theorem PlainName.text_chars (a : PlainName) : ∀ c ∈ a.text.toList, IsPathChar c :=
  fun c hc => .inl (a.word c hc)

/-- **A path alone** is written as the path quoted. -/
theorem quoteFull_path (hq : q = '"' ∨ q = '\x60') (p : Path) {u v : List Char}
    (hu : ∀ c ∈ u, isGap c = true) (hv : ∀ c ∈ v, isGap c = true) :
    quoteFull q (u ++ p.text.toList ++ v) = (p.quoted q).toList := by
  have ht := p.trimmed_around (fun c hc => isBlank_of_isGap (hu c hc)) (fun c hc => isBlank_of_isGap (hv c hc))
  have hs : splitOf (trimmed (u ++ p.text.toList ++ v)) = .whole := by
    rw [ht]
    exact splitOf_of_no_gap fun c hc => (p.text_chars c hc).facts.1
  rw [quoteFull_whole hs, ht, quoteDotted_path hq]

theorem quoteFull_plainName (hq : q = '"' ∨ q = '\x60') (a : PlainName) :
    quoteFull q a.text.toList = (a.quoted q).toList := by
  simpa using quoteFull_path hq a.path (u := []) (v := []) (by simp) (by simp)

/-- The characters of a path are passed on by the scan for ` AS `. -/
theorem Path.plain (p : Path) : ∀ c ∈ p.text.toList, (c ≠ '"' ∧ c ≠ '\x60') ∧ isGap c = false :=
  fun c hc => by
    obtain ⟨h₁, -, h₃, h₄, -⟩ := (p.text_chars c hc).facts
    exact ⟨⟨h₃, h₄⟩, h₁⟩

/-- A text running from a path to a name is its own trimmed text, whatever lies between. -/
theorem Path.trimmed_to_name (p : Path) (a : PlainName) {u v : List Char}
    (hu : ∀ c ∈ u, isBlank c = true) (hv : ∀ c ∈ v, isBlank c = true) (mid : List Char) :
    trimmed (u ++ (p.text.toList ++ mid ++ a.text.toList) ++ v) =
      p.text.toList ++ mid ++ a.text.toList := by
  refine Sql.trimmed_around hu hv (by simp [p.text_ne_nil]) (fun c hc => ?_) (fun c hc => ?_)
  · rw [List.append_assoc, List.head?_append_of_ne_nil _ p.text_ne_nil] at hc
    exact (p.text_chars c (List.mem_of_mem_head? hc)).facts.2.1
  · rw [List.getLast?_append_of_ne_nil _ a.nonempty] at hc
    exact (a.text_chars c (List.mem_of_mem_getLast? hc)).facts.2.1

/-- A name after a blank run is the trimmed text. -/
theorem PlainName.trimmed_after (a : PlainName) {w : List Char} (hw : ∀ c ∈ w, isBlank c = true) :
    trimmed (w ++ a.text.toList) = a.text.toList := by
  simpa using a.path.trimmed_around hw (v := []) (by simp)

/-- Every character of the two forms with an alias may be part of an alias. -/
theorem Path.all_aliasChar (p : Path) (a : PlainName) {mid : List Char}
    (hmid : ∀ c ∈ mid, aliasChar c = true) :
    (p.text.toList ++ mid ++ a.text.toList).all aliasChar = true := by
  simp only [List.all_append, List.all_eq_true, Bool.and_eq_true]
  exact ⟨⟨fun c hc => (p.text_chars c hc).facts.2.2.2.2, hmid⟩,
    fun c hc => (a.text_chars c hc).facts.2.2.2.2⟩

/-- **A path, `AS` and a name** are written as both quoted with ` AS ` between: the scan passes
the path, then finds ` AS ` after the first blank run. -/
theorem quoteFull_path_as (hq : q = '"' ∨ q = '\x60') (p : Path) (a : PlainName)
    {u v w₁ w₂ : List Char} {x₁ x₂ : Char} (hu : ∀ c ∈ u, isGap c = true) (hv : ∀ c ∈ v, isGap c = true)
    (hw₁ : w₁ ≠ []) (hw₁g : ∀ c ∈ w₁, isGap c = true) (hw₂ : w₂ ≠ []) (hw₂g : ∀ c ∈ w₂, isGap c = true)
    (hx : ((x₁ == 'a' || x₁ == 'A') && (x₂ == 's' || x₂ == 'S')) = true) (hx₁ : aliasChar x₁ = true)
    (hx₂ : aliasChar x₂ = true) :
    quoteFull q (u ++ (p.text.toList ++ (w₁ ++ [x₁, x₂] ++ w₂) ++ a.text.toList) ++ v) =
      (p.quoted q).toList ++ " AS ".toList ++ (a.quoted q).toList := by
  have hall : (p.text.toList ++ (w₁ ++ [x₁, x₂] ++ w₂) ++ a.text.toList).all aliasChar = true := by
    refine p.all_aliasChar a fun c hc => ?_
    simp only [List.mem_append, List.mem_cons, List.not_mem_nil, or_false] at hc
    rcases hc with (hc | rfl | rfl) | hc
    exacts [(isGap_facts (hw₁g c hc)).2.2.2.2, hx₁, hx₂, (isGap_facts (hw₂g c hc)).2.2.2.2]
  obtain ⟨d, w₂', rfl⟩ := List.exists_cons_of_ne_nil hw₂
  have hright : trimmed (d :: (w₂' ++ a.text.toList)) = a.text.toList := by
    simpa using a.trimmed_after (w := d :: w₂') fun c hc => isBlank_of_isGap (hw₂g c hc)
  have hleft : trimmed (p.text.toList.reverse.reverse ++ w₁.dropLast) = p.text.toList := by
    rw [List.reverse_reverse]
    simpa using p.trimmed_around (u := []) (v := w₁.dropLast) (by simp)
      (fun c hc => isBlank_of_isGap (hw₁g c (List.dropLast_subset _ hc)))
  have hsplit : splitAs [] none (p.text.toList ++ (w₁ ++ [x₁, x₂] ++ d :: w₂') ++ a.text.toList) =
      some (p.text.toList, a.text.toList) := by
    have hr : trimmed (d :: (w₂' ++ a.text.toList)) ≠ [] := by rw [hright]; exact a.nonempty
    have hl : trimmed (p.text.toList.reverse.reverse ++ w₁.dropLast) ≠ [] := by
      rw [hleft]; exact p.text_ne_nil
    have h := splitAs_gaps_as hx (hw₂g d (by simp)) hr w₁ hw₁ hw₁g hl
    rw [hleft, hright] at h
    rw [← h, List.append_assoc, splitAs_plain_append p.plain]
    simp
  have hs : splitOf (trimmed (u ++ (p.text.toList ++ (w₁ ++ [x₁, x₂] ++ d :: w₂') ++ a.text.toList) ++ v)) =
      .asAlias p.text.toList a.text.toList := by
    rw [p.trimmed_to_name a (fun c hc => isBlank_of_isGap (hu c hc)) (fun c hc => isBlank_of_isGap (hv c hc)),
      splitOf, if_pos hall, hsplit]
  rw [quoteFull_asAlias hs, quoteFull_plainName hq]
  simpa using congrArg (· ++ " AS ".toList ++ (a.quoted q).toList)
    (quoteFull_path hq p (u := []) (v := []) (by simp) (by simp))

/-- **A path, a blank run and a name** are written as both quoted with a blank between, once the
path is longer than one character. No ` AS ` is found, and the second pass splits at the last
blank run. -/
theorem quoteFull_path_alias (hq : q = '"' ∨ q = '\x60') (p : Path) (a : PlainName)
    {u v w : List Char} (hu : ∀ c ∈ u, isGap c = true) (hv : ∀ c ∈ v, isGap c = true)
    (hw : w ≠ []) (hwg : ∀ c ∈ w, isGap c = true) (hlen : 1 < p.text.toList.length) :
    quoteFull q (u ++ (p.text.toList ++ w ++ a.text.toList) ++ v) =
      (p.quoted q).toList ++ ' ' :: (a.quoted q).toList := by
  have hall := p.all_aliasChar a fun c hc => (isGap_facts (hwg c hc)).2.2.2.2
  have hag : ∀ c ∈ a.text.toList, isGap c = false := fun c hc => (a.text_chars c hc).facts.1
  have hnoAs : splitAs [] none (p.text.toList ++ w ++ a.text.toList) = none := by
    rw [List.append_assoc, splitAs_plain_append p.plain]
    exact splitAs_gaps_word hag hw hwg
  have hleft : trimmed (p.text.toList ++ w) = p.text.toList := by
    simpa using p.trimmed_around (u := []) (v := w) (by simp) (fun c hc => isBlank_of_isGap (hwg c hc))
  have halias : splitSpaceAlias (p.text.toList ++ w ++ a.text.toList) = some (p.text.toList, a.text.toList) := by
    rw [splitSpaceAlias_word hw hwg a.nonempty hag (fun c hc => ?_) (by rw [hleft]; exact hlen), hleft]
    obtain ⟨-, -, h₃, h₄, -, -, -⟩ := (a.word c (List.mem_of_mem_getLast? hc)).facts
    exact ⟨h₃, h₄⟩
  have hs : splitOf (trimmed (u ++ (p.text.toList ++ w ++ a.text.toList) ++ v)) =
      .spaceAlias p.text.toList a.text.toList := by
    rw [p.trimmed_to_name a (fun c hc => isBlank_of_isGap (hu c hc)) (fun c hc => isBlank_of_isGap (hv c hc)),
      splitOf, if_pos hall, hnoAs]
    simp only [halias]
  rw [quoteFull_spaceAlias hs, quoteFull_plainName hq]
  simpa using congrArg (· ++ ' ' :: (a.quoted q).toList)
    (quoteFull_path hq p (u := []) (v := []) (by simp) (by simp))

/-- A name is written as `t` once its characters are written as those of `t`. -/
theorem quoteName_of_quoteFull {s t : String} (h : quoteFull q s.toList = t.toList) :
    quoteName q s = t := by
  rw [quoteName_eq_quoteFull, h, String.ofList_toList]

theorem quoteName_path (hq : q = '"' ∨ q = '\x60') (p : Path) {u v : String}
    (hu : ∀ c ∈ u.toList, isGap c = true) (hv : ∀ c ∈ v.toList, isGap c = true) :
    quoteName q (u ++ p.text ++ v) = p.quoted q :=
  quoteName_of_quoteFull (by simpa only [String.toList_append] using quoteFull_path hq p hu hv)

theorem quoteName_path_as (hq : q = '"' ∨ q = '\x60') (p : Path) (a : PlainName)
    {u v w₁ w₂ x : String} (hu : ∀ c ∈ u.toList, isGap c = true) (hv : ∀ c ∈ v.toList, isGap c = true)
    (hw₁ : w₁ ≠ "") (hw₁g : ∀ c ∈ w₁.toList, isGap c = true)
    (hw₂ : w₂ ≠ "") (hw₂g : ∀ c ∈ w₂.toList, isGap c = true) (hx : x ∈ ["AS", "As", "aS", "as"]) :
    quoteName q (u ++ (p.text ++ w₁ ++ x ++ w₂ ++ a.text) ++ v) = p.quoted q ++ " AS " ++ a.quoted q := by
  obtain ⟨x₁, x₂, hxs, hx, hx₁, hx₂⟩ := asWord_chars hx
  refine quoteName_of_quoteFull ?_
  simpa only [String.toList_append, hxs, List.append_assoc] using
    quoteFull_path_as hq p a hu hv (mt String.toList_eq_nil_iff.mp hw₁) hw₁g
      (mt String.toList_eq_nil_iff.mp hw₂) hw₂g hx hx₁ hx₂

theorem quoteName_path_alias (hq : q = '"' ∨ q = '\x60') (p : Path) (a : PlainName)
    {u v w₁ : String} (hu : ∀ c ∈ u.toList, isGap c = true) (hv : ∀ c ∈ v.toList, isGap c = true)
    (hw₁ : w₁ ≠ "") (hw₁g : ∀ c ∈ w₁.toList, isGap c = true) (hlen : 1 < p.text.length) :
    quoteName q (u ++ (p.text ++ w₁ ++ a.text) ++ v) = p.quoted q ++ " " ++ a.quoted q := by
  refine quoteName_of_quoteFull ?_
  simpa only [String.toList_append, List.append_assoc, show " ".toList = [' '] from rfl, List.cons_append,
    List.nil_append] using
    quoteFull_path_alias hq p a hu hv (mt String.toList_eq_nil_iff.mp hw₁) hw₁g
      (by rwa [String.length_toList])

/-- **The documented forms are quoted as documented.** A path alone; a path, `AS` in any case and a
name; and a path longer than one character followed by a name, each part separated by blanks and
blanks allowed at both ends: the ends are dropped, every name of the path is quoted and `*` stays
bare, and the name is written after ` AS ` or after one blank. -/
theorem quoteName_documented_forms (hq : q = '"' ∨ q = '\x60') (p : Path) (a : PlainName)
    {u v w₁ w₂ x : String} (hu : ∀ c ∈ u.toList, isGap c = true) (hv : ∀ c ∈ v.toList, isGap c = true)
    (hw₁ : w₁ ≠ "") (hw₁g : ∀ c ∈ w₁.toList, isGap c = true)
    (hw₂ : w₂ ≠ "") (hw₂g : ∀ c ∈ w₂.toList, isGap c = true) (hx : x ∈ ["AS", "As", "aS", "as"]) :
    quoteName q (u ++ p.text ++ v) = p.quoted q ∧
      quoteName q (u ++ (p.text ++ w₁ ++ x ++ w₂ ++ a.text) ++ v) = p.quoted q ++ " AS " ++ a.quoted q ∧
      (1 < p.text.length →
        quoteName q (u ++ (p.text ++ w₁ ++ a.text) ++ v) = p.quoted q ++ " " ++ a.quoted q) :=
  ⟨quoteName_path hq p hu hv, quoteName_path_as hq p a hu hv hw₁ hw₁g hw₂ hw₂g hx,
    quoteName_path_alias hq p a hu hv hw₁ hw₁g⟩

/-- The path `t.*` and the alias `x`, with a blank and a line break around them. -/
theorem quoteName_table_star_forms :
    quoteName '"' (" " ++ "t.*" ++ "\n") = "\"t\".*" ∧
      quoteName '"' (" " ++ ("t.*" ++ " " ++ "as" ++ "\t" ++ "x") ++ "\n") = "\"t\".*" ++ " AS " ++ "\"x\"" ∧
      (1 < "t.*".length →
        quoteName '"' (" " ++ ("t.*" ++ " " ++ "x") ++ "\n") = "\"t\".*" ++ " " ++ "\"x\"") :=
  quoteName_documented_forms (Or.inl rfl) ⟨[.name ⟨"t", by decide, by decide⟩, .star], by simp⟩
    ⟨"x", by decide, by decide⟩ (by decide) (by decide) (by decide) (by decide) (by decide) (by decide)
    (by decide)

end

end QueryKit.Sql
