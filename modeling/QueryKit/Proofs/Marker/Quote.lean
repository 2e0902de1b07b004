import QueryKit.Proofs.Marker.Scan

/-!
# Quoted names hide every colon

A name is written as dotted parts, each between the dialect's quote characters with the quote
doubled inside, or left as it is when it is `*` or already correctly quoted; an alias adds
` AS ` or a blank between two such names. Whatever the name — colons, quotes of any kind,
blanks, dots — the scanner reads what is written as no marker at all, and a break may follow it:

* `reads_quotePart` for one part, `reads_quoteChars` for a whole name by induction on the alias
  splits, `reads_quoteName` for the written text.

Nothing here looks inside the alias splits: every shape the writer produces is read the same.
-/

namespace QueryKit.Sql

/-- Doubling every quote character leaves no quote alone. -/
theorem doubledOnly_escape (q : Char) : ∀ part : List Char,
    doubledOnly q (part.flatMap (fun c => if c == q then [q, q] else [c])) = true
  | [] => rfl
  | c :: part => by
    by_cases hc : c = q
    · subst hc
      simpa [doubledOnly] using doubledOnly_escape c part
    · have hc' : (c == q) = false := by simpa using hc
      simp only [List.flatMap_cons, hc', Bool.false_eq_true, ↓reduceIte, List.cons_append,
        List.nil_append]
      rw [doubledOnly.eq_def]
      simpa [hc'] using doubledOnly_escape q part

/-- An already quoted part is a quote, a body with its quotes doubled, and a quote. -/
theorem isQuotedPart_split {q : Char} {part : List Char} (h : isQuotedPart q part = true) :
    ∃ body, part = q :: (body ++ [q]) ∧ doubledOnly q body = true := by
  simp only [isQuotedPart, Bool.and_eq_true, decide_eq_true_eq, beq_iff_eq] at h
  obtain ⟨⟨⟨hlen, hhead⟩, hlast⟩, hbody⟩ := h
  match part, hhead with
  | a :: rest, hhead =>
    obtain rfl : q = a := by simpa using hhead.symm
    rcases List.eq_nil_or_concat rest with rfl | ⟨body, b, rfl⟩
    · simp at hlen
    · rw [List.concat_eq_append] at hlast hbody ⊢
      have hb : b = q := by
        rw [← List.cons_append, List.getLast?_concat] at hlast
        simpa using hlast
      subst hb
      exact ⟨body, rfl, by simpa using hbody⟩

section

variable {q : Char}

/-- **One part**: `*` is plain, and the two other shapes are quoted texts. -/
theorem reads_quotePart (hq : isQuoteChar q = true) (part : List Char) :
    Reads (quotePart q part) [] isBreak := by
  unfold quotePart
  split
  · rename_i h
    simp only [Bool.or_eq_true, beq_iff_eq] at h
    rcases h with rfl | h
    · exact (reads_plain (by decide)).mono (fun _ _ => rfl)
    · obtain ⟨body, rfl, hb⟩ := isQuotedPart_split h
      exact (reads_quoted hq hb).mono (fun _ hc => isBreak_ne_quote hq hc)
  · exact (reads_quoted hq (doubledOnly_escape q part)).mono (fun _ hc => isBreak_ne_quote hq hc)

theorem reads_dotted (hq : isQuoteChar q = true) (parts : List (List Char)) :
    Reads (".".toList.intercalate (parts.map (quotePart q))) [] isBreak := by
  have h : ReadsEach (parts.map (quotePart q)) [] := by
    induction parts with
    | nil => exact .nil
    | cons p ps ih => simpa using ReadsEach.cons (reads_quotePart hq p) ih
  exact Reads.intercalate (c := '.') (t := []) rfl (by decide) (by decide) h

/-- **A whole name**, by induction on the fuel of the alias splits: each side of ` AS ` or of
the blank before an alias is itself a name. -/
theorem reads_quoteChars (hq : isQuoteChar q = true) :
    ∀ (fuel : Nat) (cs : List Char), Reads (quoteChars q fuel cs) [] isBreak
  | 0, cs => reads_dotted hq _
  | fuel + 1, raw => by
    have hgap : Reads [' '] [] (fun _ => true) := reads_plain (by decide)
    simp only [quoteChars]
    split
    · split
      · rename_i left right _
        have has : Reads " AS ".toList [] (fun _ => true) := reads_plainText (by decide)
        have hright := has.append (reads_quoteChars hq fuel right) (fun _ _ => follows_true _)
        simpa using (reads_quoteChars hq fuel left).append hright
          (fun _ _ => by simp [Follows]; decide)
      · split
        · rename_i left right _
          have hright := hgap.append (reads_quoteChars hq fuel right) (fun _ _ => follows_true _)
          simpa using (reads_quoteChars hq fuel left).append hright
            (fun _ _ => by simp [Follows]; decide)
        · exact reads_dotted hq _
    · exact reads_dotted hq _

/-- **A quoted name is read as no marker.** -/
theorem reads_quoteName (hq : isQuoteChar q = true) (name : String) :
    Reads (quoteName q name).toList [] isBreak := by
  simpa [quoteName] using reads_quoteChars hq (name.length + 1) name.toList

end

end QueryKit.Sql
