import Mathlib
import QueryKit.Proofs.Identifier.Forms

/-!
# Quoting a written name again

A part already between quote characters, every quote inside doubled, is kept as it is; so
quoting a name that `quoteName` wrote is meant to give it back. For the documented forms this
holds: the text written for a path, for a path with ` AS ` and a name, and for a path with a
name after a blank, is written again unchanged.

* `PassesAs`: the scan for ` AS ` reads a piece outside quotes and leaves it outside quotes,
  without a split; `Path.passesAs`: a written path is such a piece;
* `splitSpaceAlias_quoted_last`: the split before a quoted alias;
* `quoteFull_quoted_path`, `quoteFull_quoted_path_as`, `quoteFull_quoted_path_alias`: the three
  written forms are written again as they are;
* `quoteName_idempotent_on_documented_forms`: quoting twice is quoting once, on every
  documented form.

It is not so for every name. The second pass splits the written text again, and its split
before an alias looks at the last dotted part only: `xy a.b` is written `"xy" "a"."b"`, in which
no blank comes before `"b"`, so the second pass splits at dots only and quotes `"xy" "a"` as
one name (`quoteName_twice_dotted_alias`).
-/

namespace QueryKit.Sql

open Text

section

variable {q : Char}

/-! ## Characters of a written path -/

theorem IsWordChar.ne_quote (hq : q = '"' ∨ q = '\x60') {c : Char} (h : IsWordChar c) : c ≠ q := by
  obtain ⟨-, -, h₃, h₄, -⟩ := h.facts
  rcases hq with rfl | rfl
  · exact h₃
  · exact h₄

/-- What a character of a written path is not: a blank of either kind; and it may stand in a
name that carries an alias. -/
theorem quotedChar_facts (hq : q = '"' ∨ q = '\x60') {c : Char} (h : IsPathChar c ∨ c = q) :
    isGap c = false ∧ isBlank c = false ∧ aliasChar c = true := by
  rcases h with h | rfl
  · obtain ⟨h₁, h₂, -, -, h₅⟩ := h.facts
    exact ⟨h₁, h₂, h₅⟩
  · rcases hq with rfl | rfl <;> decide

theorem PlainName.quoted_toList (q : Char) (n : PlainName) :
    (n.quoted q).toList = q :: (n.text.toList ++ [q]) := by
  simp [PlainName.quoted]

theorem PathStep.quoted_chars : ∀ (s : PathStep), ∀ c ∈ (s.quoted q).toList, IsPathChar c ∨ c = q
  | .name n, c, hc => by
    rw [quoted, PlainName.quoted_toList] at hc
    simp only [List.mem_cons, List.mem_append, List.not_mem_nil, or_false] at hc
    rcases hc with rfl | hc | rfl
    · exact .inr rfl
    · exact .inl (.inl (n.word c hc))
    · exact .inr rfl
  | .star, c, hc => by
    simp only [quoted, show "*".toList = ['*'] from rfl, List.mem_singleton] at hc
    exact .inl (.inr (.inr hc))

theorem Path.quoted_chars (p : Path) : ∀ c ∈ (p.quoted q).toList, IsPathChar c ∨ c = q := by
  intro c hc
  rw [Path.quoted_toList] at hc
  rcases mem_intercalate_dot hc with rfl | ⟨l, hl, hc⟩
  · exact .inl (.inr (.inl rfl))
  · obtain ⟨s, -, rfl⟩ := List.mem_map.mp hl
    exact s.quoted_chars c hc

/-! ## Lengths -/

theorem PathStep.length_text_le_quoted : ∀ s : PathStep, s.text.toList.length ≤ (s.quoted q).toList.length
  | .name n => by
    simp only [text, quoted, PlainName.quoted_toList, List.length_cons, List.length_append]
    omega
  | .star => Nat.le_refl _

/-- Joining by a separator keeps an order of lengths that holds part by part. -/
theorem length_intercalate_map_le {α : Type} (sep : List Char) {f g : α → List Char}
    (h : ∀ x, (f x).length ≤ (g x).length) :
    ∀ xs : List α, (sep.intercalate (xs.map f)).length ≤ (sep.intercalate (xs.map g)).length
  | [] => by simp
  | [x] => by simpa using h x
  | x :: y :: xs => by
    have hrest := length_intercalate_map_le sep h (y :: xs)
    simp only [List.map_cons, List.intercalate_cons_cons, List.length_append] at hrest ⊢
    have hx := h x
    omega

/-- Writing a path makes it no shorter. -/
theorem Path.length_text_le_quoted (p : Path) : p.text.toList.length ≤ (p.quoted q).toList.length := by
  rw [Path.text_toList, Path.quoted_toList]
  exact length_intercalate_map_le _ PathStep.length_text_le_quoted _

theorem Path.quoted_ne_nil (p : Path) : (p.quoted q).toList ≠ [] := by
  intro h
  have := p.length_text_le_quoted (q := q)
  rw [h, List.length_nil, Nat.le_zero, List.length_eq_zero_iff] at this
  exact p.text_ne_nil this

/-! ## Trimming -/

/-- A text between two written paths is its own trimmed text. -/
theorem trimmed_quoted_between (hq : q = '"' ∨ q = '\x60') (p p' : Path) (mid : List Char) :
    trimmed ((p.quoted q).toList ++ mid ++ (p'.quoted q).toList) =
      (p.quoted q).toList ++ mid ++ (p'.quoted q).toList := by
  have hhead : ∀ c ∈ ((p.quoted q).toList ++ mid ++ (p'.quoted q).toList).head?, isBlank c = false := by
    intro c hc
    rw [List.append_assoc, List.head?_append_of_ne_nil _ p.quoted_ne_nil] at hc
    exact (quotedChar_facts hq (p.quoted_chars c (List.mem_of_mem_head? hc))).2.1
  have hlast : ∀ c ∈ ((p.quoted q).toList ++ mid ++ (p'.quoted q).toList).getLast?, isBlank c = false := by
    intro c hc
    rw [List.getLast?_append_of_ne_nil _ p'.quoted_ne_nil] at hc
    exact (quotedChar_facts hq (p'.quoted_chars c (List.mem_of_mem_getLast? hc))).2.1
  simpa using trimmed_around (u := []) (v := []) (by simp) (by simp) (by simp [p.quoted_ne_nil]) hhead hlast

/-- A written path after blanks, or before them, is the trimmed text. -/
theorem trimmed_quoted_around (hq : q = '"' ∨ q = '\x60') (p : Path) {u v : List Char}
    (hu : ∀ c ∈ u, isBlank c = true) (hv : ∀ c ∈ v, isBlank c = true) :
    trimmed (u ++ (p.quoted q).toList ++ v) = (p.quoted q).toList :=
  trimmed_around hu hv p.quoted_ne_nil
    (fun c hc => (quotedChar_facts hq (p.quoted_chars c (List.mem_of_mem_head? hc))).2.1)
    (fun c hc => (quotedChar_facts hq (p.quoted_chars c (List.mem_of_mem_getLast? hc))).2.1)

/-! ## A written path alone -/

theorem PathStep.quoted_simplePart (hq : q = '"' ∨ q = '\x60') :
    ∀ s : PathStep, SimplePart q (s.quoted q).toList
  | .name n => by
    refine .inr ⟨n.text.toList, by rw [quoted, PlainName.quoted_toList], fun c hc => ?_⟩
    exact ⟨(n.word c hc).ne_quote hq, (n.word c hc).facts.2.2.2.2.1⟩
  | .star => by
    refine .inl fun c hc => ?_
    simp only [quoted, show "*".toList = ['*'] from rfl, List.mem_singleton] at hc
    subst hc
    rcases hq with rfl | rfl <;> decide

theorem PathStep.quotePart_quoted (hq : q = '"' ∨ q = '\x60') :
    ∀ s : PathStep, quotePart q (s.quoted q).toList = (s.quoted q).toList
  | .name n => by
    rw [quoted, PlainName.quoted_toList]
    exact Sql.quotePart_quoted fun c hc => (n.word c hc).ne_quote hq
  | .star => by
    simp only [quoted, show "*".toList = ['*'] from rfl]
    exact quotePart_star

/-- **The dotted form of a written path** is the path as written: it splits into its written
steps, each already quoted. -/
theorem quoteDotted_quoted (hq : q = '"' ∨ q = '\x60') (p : Path) :
    quoteDotted q (p.quoted q).toList = (p.quoted q).toList := by
  have hdot : q ≠ '.' := by rcases hq with rfl | rfl <;> decide
  obtain ⟨s, ss, hs⟩ := List.exists_cons_of_ne_nil p.nonempty
  rw [quoteDotted, Path.quoted_toList, hs, List.map_cons, show ".".toList = ['.'] from rfl,
    splitOutside_intercalate hdot _ _ (s.quoted_simplePart hq)
      (fun t ht => by obtain ⟨s', -, rfl⟩ := List.mem_map.mp ht; exact s'.quoted_simplePart hq)]
  simp [Function.comp_def, PathStep.quotePart_quoted hq]

/-- **A written path is written again as it is.** -/
theorem quoteFull_quoted_path (hq : q = '"' ∨ q = '\x60') (p : Path) :
    quoteFull q (p.quoted q).toList = (p.quoted q).toList := by
  have ht : trimmed (p.quoted q).toList = (p.quoted q).toList := by
    simpa using trimmed_quoted_around hq p (u := []) (v := []) (by simp) (by simp)
  have hs : splitOf (trimmed (p.quoted q).toList) = .whole := by
    rw [ht]
    exact splitOf_of_no_gap fun c hc => (quotedChar_facts hq (p.quoted_chars c hc)).1
  rw [quoteFull_whole hs, ht, quoteDotted_quoted hq]

theorem quoteFull_quoted_name (hq : q = '"' ∨ q = '\x60') (a : PlainName) :
    quoteFull q (a.quoted q).toList = (a.quoted q).toList := by
  simpa using quoteFull_quoted_path hq a.path

end

/-! ## The scan for ` AS ` over written text -/

/-- **Passing over a piece**: the scan for ` AS ` reads `xs` from outside quotes, does not split
in it, and leaves it outside quotes. -/
def PassesAs (xs : List Char) : Prop :=
  ∀ before rest, splitAs before none (xs ++ rest) = splitAs (xs.reverse ++ before) none rest

theorem PassesAs.append {xs ys : List Char} (hx : PassesAs xs) (hy : PassesAs ys) :
    PassesAs (xs ++ ys) := by
  intro before rest
  rw [List.append_assoc, hx, hy, List.reverse_append, List.append_assoc]

theorem passesAs_plain {xs : List Char} (h : ∀ c ∈ xs, (c ≠ '"' ∧ c ≠ '\x60') ∧ isGap c = false) :
    PassesAs xs :=
  splitAs_plain_append h

/-- Inside a quoted part the scan only looks for the closing quote. -/
theorem splitAs_inside_quote (q : Char) {n : List Char} (hn : ∀ c ∈ n, c ≠ q) (before rest : List Char) :
    splitAs before (some q) (n ++ q :: rest) = splitAs (q :: (n.reverse ++ before)) none rest := by
  induction n generalizing before with
  | nil =>
    rw [List.nil_append, splitAs.eq_def]
    simp
  | cons c n ih =>
    simp only [List.mem_cons, forall_eq_or_imp] at hn
    have hc : (c == q) = false := by simpa using hn.1
    rw [List.cons_append, splitAs.eq_def]
    dsimp only
    rw [hc]
    simp only [Bool.false_eq_true, ↓reduceIte]
    rw [ih hn.2]
    simp

/-- A quote character outside quotes opens a quoted part. -/
theorem splitAs_open_quote {q : Char} (hq : q = '"' ∨ q = '\x60') (before rest : List Char) :
    splitAs before none (q :: rest) = splitAs (q :: before) (some q) rest := by
  rw [splitAs.eq_def]
  rcases hq with rfl | rfl <;> simp

theorem passesAs_quoted {q : Char} (hq : q = '"' ∨ q = '\x60') {n : List Char} (hn : ∀ c ∈ n, c ≠ q) :
    PassesAs (q :: (n ++ [q])) := by
  intro before rest
  rw [List.cons_append, List.append_assoc, List.singleton_append, splitAs_open_quote hq,
    splitAs_inside_quote q hn]
  simp

theorem PassesAs.intercalate {sep : List Char} (hsep : PassesAs sep) :
    ∀ {ts : List (List Char)}, (∀ t ∈ ts, PassesAs t) → PassesAs (sep.intercalate ts)
  | [], _ => fun before rest => by simp
  | [t], h => by simpa using h t (by simp)
  | t :: t' :: ts, h => by
    rw [List.intercalate_cons_cons]
    exact ((h t (by simp)).append hsep).append
      (PassesAs.intercalate hsep fun x hx => h x (List.mem_cons_of_mem _ hx))

section

variable {q : Char}

theorem PathStep.passesAs (hq : q = '"' ∨ q = '\x60') : ∀ s : PathStep, PassesAs (s.quoted q).toList
  | .name n => by
    rw [quoted, PlainName.quoted_toList]
    exact passesAs_quoted hq fun c hc => (n.word c hc).ne_quote hq
  | .star => by
    simp only [quoted, show "*".toList = ['*'] from rfl]
    exact passesAs_plain (by decide)

/-- **The scan for ` AS ` passes over a written path.** -/
theorem Path.passesAs (hq : q = '"' ∨ q = '\x60') (p : Path) : PassesAs (p.quoted q).toList := by
  rw [Path.quoted_toList]
  refine PassesAs.intercalate (passesAs_plain (by decide)) fun t ht => ?_
  obtain ⟨s, -, rfl⟩ := List.mem_map.mp ht
  exact s.passesAs hq

/-- **A written path, ` AS ` and a written name** are written again as they are: past the written
path the scan meets ` AS `, with both sides already trimmed. -/
theorem quoteFull_quoted_path_as (hq : q = '"' ∨ q = '\x60') (p : Path) (a : PlainName) :
    quoteFull q ((p.quoted q).toList ++ " AS ".toList ++ (a.quoted q).toList) =
      (p.quoted q).toList ++ " AS ".toList ++ (a.quoted q).toList := by
  have hP := fun c hc => quotedChar_facts hq (p.quoted_chars c hc)
  have hA := fun c hc => quotedChar_facts hq (a.path.quoted_chars c hc)
  simp only [PlainName.path_quoted] at hA
  have ht := trimmed_quoted_between hq p a.path " AS ".toList
  simp only [PlainName.path_quoted] at ht
  have hall : ((p.quoted q).toList ++ " AS ".toList ++ (a.quoted q).toList).all aliasChar = true := by
    simp only [List.all_append, List.all_eq_true, Bool.and_eq_true]
    exact ⟨⟨fun c hc => (hP c hc).2.2, by decide⟩, fun c hc => (hA c hc).2.2⟩
  have hleft : trimmed ((p.quoted q).toList.reverse ++ []).reverse = (p.quoted q).toList := by
    simpa using trimmed_quoted_around hq p (u := []) (v := []) (by simp) (by simp)
  have hright : trimmed (' ' :: (a.quoted q).toList) = (a.quoted q).toList := by
    simpa using trimmed_quoted_around hq a.path (u := [' ']) (v := []) (by decide) (by simp)
  have hsplit : splitAs [] none ((p.quoted q).toList ++ " AS ".toList ++ (a.quoted q).toList) =
      some ((p.quoted q).toList, (a.quoted q).toList) := by
    rw [List.append_assoc, p.passesAs hq, show " AS ".toList ++ (a.quoted q).toList =
      ' ' :: 'A' :: 'S' :: ' ' :: (a.quoted q).toList from rfl,
      splitAs_gap_as (by decide) (by decide) (by decide) (by rw [hleft]; exact p.quoted_ne_nil)
        (by rw [hright]; exact a.path.quoted_ne_nil), hleft, hright]
  have hs : splitOf (trimmed ((p.quoted q).toList ++ " AS ".toList ++ (a.quoted q).toList)) =
      .asAlias (p.quoted q).toList (a.quoted q).toList := by
    rw [ht, splitOf, if_pos hall, hsplit]
  rw [quoteFull_asAlias hs, quoteFull_quoted_path hq, quoteFull_quoted_name hq]

end

/-! ## The split before a quoted alias -/

/-- The scan back for a quote passes over a part without it. -/
theorem lastIndexBefore_skip {q : Char} {xs ys zs : List Char} (hys : ∀ c ∈ ys, c ≠ q) :
    ∀ k ≤ ys.length, lastIndexBefore (xs ++ q :: (ys ++ zs)) q (xs.length + 1 + k) = some xs.length
  | 0, _ => by simp [lastIndexBefore, List.getD_eq_getElem?_getD]
  | k + 1, hk => by
    have hget : ((xs ++ q :: (ys ++ zs)).getD (xs.length + 1 + k) ' ' == q) = false := by
      rw [List.getD_eq_getElem?_getD, List.getElem?_append_right (by omega),
        show xs.length + 1 + k - xs.length = k + 1 by omega, List.getElem?_cons_succ,
        List.getElem?_append_left hk, List.getElem?_eq_getElem hk]
      simpa using hys _ (List.getElem_mem hk)
    rw [← Nat.add_assoc, lastIndexBefore, hget]
    exact lastIndexBefore_skip hys k (by omega)

/-- **The split before a quoted alias**: the text ends with a part between quotes, a blank comes
before it, and before the blank a text longer than one character once trimmed. The scan back from
the closing quote finds the opening one, right after the blank. -/
theorem splitSpaceAlias_quoted_last {q : Char} (hq : q = '"' ∨ q = '\x60') {l n : List Char} {g : Char}
    (hg : isGap g = true) (hn : ∀ c ∈ n, c ≠ q) (hl : 1 < (trimmed (l ++ [g])).length) :
    splitSpaceAlias (l ++ [g] ++ q :: (n ++ [q])) = some (trimmed (l ++ [g]), q :: (n ++ [q])) := by
  have hqgap : isGap q = false := by rcases hq with rfl | rfl <;> rfl
  have hquote : (q == '"' || q == '\x60') = true := by rcases hq with rfl | rfl <;> rfl
  rw [← List.cons_append]
  refine splitSpaceAlias_at hg hqgap hl (fun _ => ?_) fun h => by simp [hquote] at h
  have h : lastIndexBefore (l ++ [g] ++ q :: (n ++ [q])) q ((l ++ [g]).length + 1 + n.length) =
      some (l ++ [g]).length :=
    lastIndexBefore_skip hn n.length (Nat.le_refl _)
  rw [List.cons_append, show (l ++ [g] ++ q :: (n ++ [q])).length - 1 = (l ++ [g]).length + 1 + n.length by
    simp; omega, h]
  simp

section

variable {q : Char}

/-- **A written path, a blank and a written name** are written again as they are, once the
written path is longer than one character. No ` AS ` is found, as the blank is followed by a
quote, and the written name is passed over. -/
theorem quoteFull_quoted_path_alias (hq : q = '"' ∨ q = '\x60') (p : Path) (a : PlainName)
    (hlen : 1 < (p.quoted q).toList.length) :
    quoteFull q ((p.quoted q).toList ++ ' ' :: (a.quoted q).toList) =
      (p.quoted q).toList ++ ' ' :: (a.quoted q).toList := by
  have hP := fun c hc => quotedChar_facts hq (p.quoted_chars c hc)
  have hA := fun c hc => quotedChar_facts hq (a.path.quoted_chars c hc)
  simp only [PlainName.path_quoted] at hA
  have ht := trimmed_quoted_between hq p a.path [' ']
  simp only [PlainName.path_quoted, List.append_assoc, List.singleton_append] at ht
  have hall : ((p.quoted q).toList ++ ' ' :: (a.quoted q).toList).all aliasChar = true := by
    simp only [List.all_append, List.all_cons, List.all_eq_true, Bool.and_eq_true]
    exact ⟨fun c hc => (hP c hc).2.2, by decide, fun c hc => (hA c hc).2.2⟩
  have hnq : ∀ c ∈ a.text.toList, c ≠ q := fun c hc => (a.word c hc).ne_quote hq
  have hnoAs : splitAs [] none ((p.quoted q).toList ++ ' ' :: (a.quoted q).toList) = none := by
    have hqa : q ≠ 'a' ∧ q ≠ 'A' := by rcases hq with rfl | rfl <;> decide
    rw [p.passesAs hq, PlainName.quoted_toList, splitAs_gap_not_as (by decide) hqa,
      ← List.append_nil (q :: (a.text.toList ++ [q])), passesAs_quoted hq hnq]
    rfl
  have hleft : trimmed ((p.quoted q).toList ++ [' ']) = (p.quoted q).toList := by
    simpa using trimmed_quoted_around hq p (u := []) (v := [' ']) (by simp) (by decide)
  have halias : splitSpaceAlias ((p.quoted q).toList ++ ' ' :: (a.quoted q).toList) =
      some ((p.quoted q).toList, (a.quoted q).toList) := by
    rw [PlainName.quoted_toList, ← List.singleton_append, ← List.append_assoc,
      splitSpaceAlias_quoted_last hq (by decide) hnq (by rw [hleft]; exact hlen), hleft]
  have hs : splitOf (trimmed ((p.quoted q).toList ++ ' ' :: (a.quoted q).toList)) =
      .spaceAlias (p.quoted q).toList (a.quoted q).toList := by
    rw [ht, splitOf, if_pos hall, hnoAs]
    simp only [halias]
  rw [quoteFull_spaceAlias hs, quoteFull_quoted_path hq, quoteFull_quoted_name hq]

/-! ## Quoting twice -/

theorem quoteName_quoted_path (hq : q = '"' ∨ q = '\x60') (p : Path) :
    quoteName q (p.quoted q) = p.quoted q :=
  quoteName_of_quoteFull (quoteFull_quoted_path hq p)

theorem quoteName_quoted_path_as (hq : q = '"' ∨ q = '\x60') (p : Path) (a : PlainName) :
    quoteName q (p.quoted q ++ " AS " ++ a.quoted q) = p.quoted q ++ " AS " ++ a.quoted q :=
  quoteName_of_quoteFull (by simpa only [String.toList_append] using quoteFull_quoted_path_as hq p a)

theorem quoteName_quoted_path_alias (hq : q = '"' ∨ q = '\x60') (p : Path) (a : PlainName)
    (hlen : 1 < p.text.length) :
    quoteName q (p.quoted q ++ " " ++ a.quoted q) = p.quoted q ++ " " ++ a.quoted q := by
  have hlen' : 1 < (p.quoted q).toList.length :=
    Nat.lt_of_lt_of_le (by rwa [String.length_toList]) p.length_text_le_quoted
  refine quoteName_of_quoteFull ?_
  simpa only [String.toList_append, List.append_assoc, show " ".toList = [' '] from rfl,
    List.cons_append, List.nil_append] using quoteFull_quoted_path_alias hq p a hlen'

/-- **Quoting twice is quoting once** on every documented form: a path; a path, `AS` in any case
and a name; a path longer than one character and a name; with blanks between and around. -/
theorem quoteName_idempotent_on_documented_forms (hq : q = '"' ∨ q = '\x60') (p : Path) (a : PlainName)
    {u v w₁ w₂ x : String} (hu : ∀ c ∈ u.toList, isGap c = true) (hv : ∀ c ∈ v.toList, isGap c = true)
    (hw₁ : w₁ ≠ "") (hw₁g : ∀ c ∈ w₁.toList, isGap c = true)
    (hw₂ : w₂ ≠ "") (hw₂g : ∀ c ∈ w₂.toList, isGap c = true) (hx : x ∈ ["AS", "As", "aS", "as"]) :
    quoteName q (quoteName q (u ++ p.text ++ v)) = quoteName q (u ++ p.text ++ v) ∧
      quoteName q (quoteName q (u ++ (p.text ++ w₁ ++ x ++ w₂ ++ a.text) ++ v)) =
        quoteName q (u ++ (p.text ++ w₁ ++ x ++ w₂ ++ a.text) ++ v) ∧
      (1 < p.text.length →
        quoteName q (quoteName q (u ++ (p.text ++ w₁ ++ a.text) ++ v)) =
          quoteName q (u ++ (p.text ++ w₁ ++ a.text) ++ v)) := by
  refine ⟨?_, ?_, fun hlen => ?_⟩
  · rw [quoteName_path hq p hu hv, quoteName_quoted_path hq]
  · rw [quoteName_path_as hq p a hu hv hw₁ hw₁g hw₂ hw₂g hx, quoteName_quoted_path_as hq]
  · rw [quoteName_path_alias hq p a hu hv hw₁ hw₁g hlen, quoteName_quoted_path_alias hq p a hlen]

end

/-- The path `users.id` and the alias `u`, quoted with backticks, with blanks around. -/
theorem quoteName_twice_users_id :
    quoteName '\x60' (quoteName '\x60' (" " ++ "users.id" ++ " ")) = quoteName '\x60' (" " ++ "users.id" ++ " ") ∧
      quoteName '\x60' (quoteName '\x60' (" " ++ ("users.id" ++ " " ++ "AS" ++ " " ++ "u") ++ " ")) =
        quoteName '\x60' (" " ++ ("users.id" ++ " " ++ "AS" ++ " " ++ "u") ++ " ") ∧
      (1 < "users.id".length →
        quoteName '\x60' (quoteName '\x60' (" " ++ ("users.id" ++ " " ++ "u") ++ " ")) =
          quoteName '\x60' (" " ++ ("users.id" ++ " " ++ "u") ++ " ")) :=
  quoteName_idempotent_on_documented_forms (Or.inr rfl)
    ⟨[.name ⟨"users", by decide, by decide⟩, .name ⟨"id", by decide, by decide⟩], by simp⟩
    ⟨"u", by decide, by decide⟩ (by decide) (by decide) (by decide) (by decide) (by decide) (by decide)
    (by decide)

/-- **A dotted alias is quoted again**: `xy a.b` is written `"xy" "a"."b"`, and that text is
written `"""xy"" ""a"""."b"`. -/
theorem quoteName_twice_dotted_alias :
    quoteName '"' "xy a.b" = "\"xy\" \"a\".\"b\"" ∧
      quoteName '"' (quoteName '"' "xy a.b") = "\"\"\"xy\"\" \"\"a\"\"\".\"b\"" := by
  decide +kernel

end QueryKit.Sql
