import Mathlib
import QueryKit.Proofs.Identifier.Recursion
import QueryKit.Proofs.Marker.Quote

/-!
# Written names are tokens

Whatever text is given as a name, what `quoteName` writes is a run of *tokens* separated by a
dot, a blank or ` AS `: each token is `*`, or a quote character, a body in which that character
appears only doubled, and a closing quote. The scanner of markers therefore reads it as plain
text: it finds no marker in it, and skipping quoted text from a token's opening quote stops at
that token's closing quote.

* `Escaped q body`: bodies of quoted names; `doubledOnly_iff` ties it to the check of
  already quoted parts;
* `IsToken q t`: the two kinds of token; `quotePart_isToken`: every quoted part is one;
* `Spelling`: a name as tokens and joints, with `Spelling.places` pairing every token with the
  text after it;
* `skipQuoted_escaped`: the scanner's skip over a quoted token;
* `quoteName_tokens`: the main statement, for the two quote characters of the dialects.
-/

namespace QueryKit.Sql

/-! ## Tokens -/

/-- **Bodies of quoted names**: any characters, the quote character only as a doubled pair. -/
inductive Escaped (q : Char) : List Char → Prop
  | nil : Escaped q []
  | char {c : Char} {rest : List Char} : c ≠ q → Escaped q rest → Escaped q (c :: rest)
  | pair {rest : List Char} : Escaped q rest → Escaped q (q :: q :: rest)

section

variable {q : Char}

theorem escaped_of_doubledOnly {body : List Char} (h : doubledOnly q body = true) : Escaped q body := by
  induction body using doubledOnly.induct q with
  | case1 => exact .nil
  | case2 c hc c' more ih =>
    simp only [doubledOnly, hc, ↓reduceIte, Bool.and_eq_true, beq_iff_eq] at h
    obtain ⟨rfl, hmore⟩ := h
    simp only [beq_iff_eq] at hc
    subst hc
    exact .pair (ih hmore)
  | case3 c hc => simp [doubledOnly, hc] at h
  | case4 c more hc ih =>
    rw [doubledOnly.eq_def] at h
    simp only [if_neg hc] at h
    exact .char (by simpa using hc) (ih h)

theorem doubledOnly_of_escaped {body : List Char} (h : Escaped q body) : doubledOnly q body = true := by
  induction h with
  | nil => rfl
  | @char c rest hc _ ih =>
    rw [doubledOnly.eq_def]
    simpa [hc] using ih
  | pair _ ih => simpa [doubledOnly] using ih

/-- **The check of already quoted parts** accepts exactly the escaped bodies. -/
theorem doubledOnly_iff {body : List Char} : doubledOnly q body = true ↔ Escaped q body :=
  ⟨escaped_of_doubledOnly, doubledOnly_of_escaped⟩

end

/-- **Tokens of a written name**: `*`, or a body between two quote characters. -/
inductive IsToken (q : Char) : List Char → Prop
  | star : IsToken q ['*']
  | quoted {body : List Char} : Escaped q body → IsToken q (q :: (body ++ [q]))

/-- **Every part is written as a token**: `*` stays, an already quoted part stays, and any other
part is quoted with its quote characters doubled. -/
theorem quotePart_isToken (q : Char) (part : List Char) : IsToken q (quotePart q part) := by
  unfold quotePart
  split
  · rename_i h
    simp only [Bool.or_eq_true, beq_iff_eq] at h
    rcases h with rfl | h
    · exact .star
    · obtain ⟨body, rfl, hb⟩ := isQuotedPart_split h
      exact .quoted (escaped_of_doubledOnly hb)
  · exact .quoted (escaped_of_doubledOnly (doubledOnly_escape q part))

/-! ## Names as tokens and joints -/

/-- What stands between two tokens: a dot between parts, a blank before an alias, or ` AS `. -/
inductive Joint where
  | dot
  | blank
  | asWord

/-- The text of a joint. -/
def Joint.text : Joint → List Char
  | .dot => ['.']
  | .blank => [' ']
  | .asWord => " AS ".toList

/-- **A name read as tokens**: the first token, then every further token with the joint before
it. -/
structure Spelling where
  first : List Char
  rest : List (Joint × List Char)

namespace Spelling

/-- The text of joints and the tokens after them. -/
def jointsText (rest : List (Joint × List Char)) : List Char := rest.flatMap (fun p => p.1.text ++ p.2)

/-- The text of a spelling. -/
def text (w : Spelling) : List Char := w.first ++ jointsText w.rest

/-- The tokens, in order. -/
def tokens (w : Spelling) : List (List Char) := w.first :: w.rest.map Prod.snd

/-- The tokens after the first, each with the text after it. -/
def restPlaces : List (Joint × List Char) → List (List Char × List Char)
  | [] => []
  | (_, t) :: more => (t, jointsText more) :: restPlaces more

/-- **Every token with the text after it.** -/
def places (w : Spelling) : List (List Char × List Char) := (w.first, jointsText w.rest) :: restPlaces w.rest

/-- Two spellings with a joint between. -/
def join (w₁ : Spelling) (j : Joint) (w₂ : Spelling) : Spelling :=
  ⟨w₁.first, w₁.rest ++ (j, w₂.first) :: w₂.rest⟩

/-- Tokens joined by dots. -/
def dotted (t : List Char) (ts : List (List Char)) : Spelling := ⟨t, ts.map (fun t => (.dot, t))⟩

theorem text_join (w₁ : Spelling) (j : Joint) (w₂ : Spelling) :
    (w₁.join j w₂).text = w₁.text ++ j.text ++ w₂.text := by
  simp [join, text, jointsText]

theorem tokens_join (w₁ : Spelling) (j : Joint) (w₂ : Spelling) :
    (w₁.join j w₂).tokens = w₁.tokens ++ w₂.tokens := by
  simp [join, tokens]

theorem text_dotted (t : List Char) (ts : List (List Char)) :
    (dotted t ts).text = ".".toList.intercalate (t :: ts) := by
  induction ts generalizing t with
  | nil => simp [dotted, text, jointsText]
  | cons t' ts ih =>
    have h := ih t'
    simp only [dotted, text, jointsText] at h ⊢
    rw [List.intercalate_cons_cons, ← h]
    simp [Joint.text]

theorem tokens_dotted (t : List Char) (ts : List (List Char)) : (dotted t ts).tokens = t :: ts := by
  simp [dotted, tokens, Function.comp_def]

/-- The tokens of `restPlaces` are the tokens after the first, and what follows each is the text of
further joints and tokens. -/
theorem mem_restPlaces {t post : List Char} :
    ∀ {rest : List (Joint × List Char)}, (t, post) ∈ restPlaces rest →
      t ∈ rest.map Prod.snd ∧ ∃ more, post = jointsText more
  | [], h => by simp [restPlaces] at h
  | (_, t') :: more, h => by
    simp only [restPlaces, List.mem_cons, Prod.mk.injEq] at h
    rcases h with ⟨rfl, rfl⟩ | h
    · exact ⟨by simp, more, rfl⟩
    · obtain ⟨ht, hpost⟩ := mem_restPlaces h
      exact ⟨by simp only [List.map_cons, List.mem_cons]; exact .inr ht, hpost⟩

/-- **Places are tokens**, each followed by joints and tokens. -/
theorem mem_places {w : Spelling} {t post : List Char} (h : (t, post) ∈ w.places) :
    t ∈ w.tokens ∧ ∃ more, post = jointsText more := by
  simp only [places, List.mem_cons, Prod.mk.injEq] at h
  rcases h with ⟨rfl, rfl⟩ | h
  · exact ⟨List.mem_cons_self, _, rfl⟩
  · obtain ⟨ht, hpost⟩ := mem_restPlaces h
    exact ⟨List.mem_cons_of_mem _ ht, hpost⟩

/-- The places of the tokens after the first stand in the text of the joints. -/
theorem restPlaces_text {t post : List Char} :
    ∀ {rest : List (Joint × List Char)}, (t, post) ∈ restPlaces rest →
      ∃ pre, jointsText rest = pre ++ t ++ post
  | [], h => by simp [restPlaces] at h
  | (j, t') :: more, h => by
    simp only [restPlaces, List.mem_cons, Prod.mk.injEq] at h
    rcases h with ⟨rfl, rfl⟩ | h
    · exact ⟨j.text, by simp [jointsText]⟩
    · obtain ⟨pre, hpre⟩ := restPlaces_text h
      refine ⟨j.text ++ t' ++ pre, ?_⟩
      simp only [jointsText, List.flatMap_cons, List.append_assoc] at hpre ⊢
      rw [hpre]

/-- **A place is a token in the text**, with the text after it. -/
theorem places_text {w : Spelling} {t post : List Char} (h : (t, post) ∈ w.places) :
    ∃ pre, w.text = pre ++ t ++ post := by
  simp only [places, List.mem_cons, Prod.mk.injEq] at h
  rcases h with ⟨rfl, rfl⟩ | h
  · exact ⟨[], rfl⟩
  · obtain ⟨pre, hpre⟩ := restPlaces_text h
    exact ⟨w.first ++ pre, by simp [text, hpre]⟩

/-- What follows a token starts with a joint, so with a dot or a blank. -/
theorem follows_jointsText {q : Char} (hdot : q ≠ '.') (hblank : q ≠ ' ') :
    ∀ rest : List (Joint × List Char), Follows (fun c => c != q) (jointsText rest)
  | [] => trivial
  | (j, _) :: _ => by
    cases j
    · simpa [jointsText, Joint.text, Follows] using hdot.symm
    · simpa [jointsText, Joint.text, Follows] using hblank.symm
    · simpa [jointsText, Joint.text, Follows] using hblank.symm

end Spelling

/-! ## Skipping a quoted token -/

section

variable {q : Char}

theorem skipQuoted_cons_ne {c : Char} (hc : c ≠ q) {xs : List Char} (hxs : xs ≠ []) (n : Nat) :
    skipQuoted q (c :: xs) n = skipQuoted q xs (n + c.utf8Size) := by
  obtain ⟨x, xs, rfl⟩ := List.exists_cons_of_ne_nil hxs
  simp [skipQuoted, hc]

/-- **Skipping a quoted token**: from after its opening quote, the scanner passes the escaped
body and the closing quote, every byte of them, and stops there, provided the same quote does
not follow. -/
theorem skipQuoted_escaped (hq : q.utf8Size = 1) {post : List Char}
    (hpost : Follows (fun c => c != q) post) {body : List Char} (hb : Escaped q body) (n : Nat) :
    skipQuoted q (body ++ q :: post) n = some (post, n + ((body ++ [q]).map Char.utf8Size).sum) := by
  induction hb generalizing n with
  | nil =>
    cases post with
    | nil => simp [skipQuoted, hq]
    | cons c r =>
      simp only [Follows, bne_iff_ne, ne_eq] at hpost
      simp [skipQuoted, hpost, hq]
  | @char c rest hc _ ih =>
    rw [List.cons_append, skipQuoted_cons_ne hc (by simp), ih]
    simp only [List.cons_append, List.map_cons, List.sum_cons, Nat.add_assoc]
  | pair _ ih =>
    simp only [List.cons_append, skipQuoted, beq_self_eq_true, ↓reduceIte, ih]
    simp only [List.map_cons, List.sum_cons, hq, Option.some.injEq, Prod.mk.injEq, true_and]
    omega

end

/-! ## What a name is written as -/

section

variable {q : Char}

/-- The parts a text splits into at dots are never none. -/
theorem splitOutside_ne_nil (sep : Char) (cs : List Char) : splitOutside sep q cs ≠ [] := by
  have hgo : ∀ cs inQuote cur, splitOutside.go sep q cs inQuote cur ≠ [] := by
    intro cs
    induction cs with
    | nil => intro _ _; simp [splitOutside.go]
    | cons c rest ih =>
      intro inQuote cur
      unfold splitOutside.go
      split
      · exact ih _ _
      · split
        · simp
        · exact ih _ _
  cases cs with
  | nil => simp [splitOutside]
  | cons c rest => exact hgo _ _ _

/-- **The dotted form is a spelling** of tokens joined by dots. -/
theorem quoteDotted_spelling (cs : List Char) :
    ∃ w : Spelling, quoteDotted q cs = w.text ∧ ∀ t ∈ w.tokens, IsToken q t := by
  obtain ⟨p, ps, hps⟩ := List.exists_cons_of_ne_nil (splitOutside_ne_nil (q := q) '.' cs)
  refine ⟨.dotted (quotePart q p) (ps.map (quotePart q)), ?_, ?_⟩
  · rw [Spelling.text_dotted, quoteDotted, hps, List.map_cons]
  · intro t ht
    rw [Spelling.tokens_dotted, ← List.map_cons, List.mem_map] at ht
    obtain ⟨part, -, rfl⟩ := ht
    exact quotePart_isToken q part

/-- **Every name is written as tokens**, by induction along the recursion of quoting. -/
theorem quoteFull_spelling (cs : List Char) :
    ∃ w : Spelling, quoteFull q cs = w.text ∧ ∀ t ∈ w.tokens, IsToken q t := by
  induction cs using quoteFull_induction with
  | asAlias cs l r hs ihl ihr =>
    obtain ⟨wl, hl, htl⟩ := ihl
    obtain ⟨wr, hr, htr⟩ := ihr
    refine ⟨wl.join .asWord wr, ?_, ?_⟩
    · rw [quoteFull_asAlias hs, Spelling.text_join, hl, hr]
      rfl
    · intro t ht
      rw [Spelling.tokens_join, List.mem_append] at ht
      exact ht.elim (htl t) (htr t)
  | spaceAlias cs l r hs ihl ihr =>
    obtain ⟨wl, hl, htl⟩ := ihl
    obtain ⟨wr, hr, htr⟩ := ihr
    refine ⟨wl.join .blank wr, ?_, ?_⟩
    · rw [quoteFull_spaceAlias hs, Spelling.text_join, hl, hr]
      simp [Joint.text]
    · intro t ht
      rw [Spelling.tokens_join, List.mem_append] at ht
      exact ht.elim (htl t) (htr t)
  | whole cs hs =>
    rw [quoteFull_whole hs]
    exact quoteDotted_spelling (trimmed cs)

end

/-- **Quoting cannot be escaped.** For each of the two quote characters of the dialects and every
text: the recursion of quoting ends within the length of the text (any more fuel writes the same
name); what is written is a run of tokens joined by dots, blanks and ` AS `, each token `*` or a
body with its quote characters doubled between two quotes; the scanner finds no marker in it; and
skipping quoted text from any token's opening quote stops right after that token's closing quote,
having passed its bytes. -/
theorem quoteName_tokens {q : Char} (hq : q = '"' ∨ q = '\x60') (s : String) :
    (∀ fuel, s.length < fuel → String.ofList (quoteChars q fuel s.toList) = quoteName q s) ∧
    ∃ w : Spelling, (quoteName q s).toList = w.text ∧ (∀ t ∈ w.tokens, IsToken q t) ∧
      markers (quoteName q s) = [] ∧
      ∀ p ∈ w.places, (∃ pre, (quoteName q s).toList = pre ++ p.1 ++ p.2) ∧
        ∀ inner, p.1 = q :: inner →
          ∀ n, skipQuoted q (inner ++ p.2) n = some (p.2, n + (inner.map Char.utf8Size).sum) := by
  have hquote : isQuoteChar q = true := by rcases hq with rfl | rfl <;> rfl
  have hsize : q.utf8Size = 1 := by rcases hq with rfl | rfl <;> rfl
  have hdot : q ≠ '.' := by rcases hq with rfl | rfl <;> decide
  have hblank : q ≠ ' ' := by rcases hq with rfl | rfl <;> decide
  refine ⟨fun fuel hfuel => ?_, ?_⟩
  · rw [quoteChars_eq_quoteFull (by rwa [String.length_toList]), quoteName_eq_quoteFull]
  obtain ⟨w, hw, htokens⟩ := quoteFull_spelling (q := q) s.toList
  have htext : (quoteName q s).toList = w.text := by
    rw [quoteName_eq_quoteFull, String.toList_ofList, hw]
  refine ⟨w, htext, htokens, ?_, ?_⟩
  · exact List.map_eq_nil_iff.mp (markers_names (reads_quoteName hquote s))
  · rintro ⟨t, post⟩ hp
    refine ⟨htext ▸ Spelling.places_text hp, ?_⟩
    rintro inner rfl n
    obtain ⟨htoken, more, rfl⟩ := Spelling.mem_places hp
    cases htokens _ htoken with
    | star => exact absurd hq (by decide)
    | @quoted body hb =>
      simpa using skipQuoted_escaped hsize (Spelling.follows_jointsText hdot hblank more) hb n

/-- A name with a blank, a backtick inside and a star, written with backticks. -/
theorem quoteName_tokens_backtick_star :
    (∀ fuel, "a\x60b c.*".length < fuel →
      String.ofList (quoteChars '\x60' fuel "a\x60b c.*".toList) = quoteName '\x60' "a\x60b c.*") ∧
    ∃ w : Spelling, (quoteName '\x60' "a\x60b c.*").toList = w.text ∧ (∀ t ∈ w.tokens, IsToken '\x60' t) ∧
      markers (quoteName '\x60' "a\x60b c.*") = [] ∧
      ∀ p ∈ w.places, (∃ pre, (quoteName '\x60' "a\x60b c.*").toList = pre ++ p.1 ++ p.2) ∧
        ∀ inner, p.1 = '\x60' :: inner →
          ∀ n, skipQuoted '\x60' (inner ++ p.2) n = some (p.2, n + (inner.map Char.utf8Size).sum) :=
  quoteName_tokens (Or.inr rfl) "a\x60b c.*"

end QueryKit.Sql
