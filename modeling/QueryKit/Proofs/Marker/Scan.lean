import QueryKit.Sql.Placeholder

/-!
# Reading markers piece by piece

`markers` reads a statement left to right: it skips quoted text whole, skips `::`, and reads a
colon followed by a name as a marker. A statement is written by joining pieces, so the facts
here are about how the scanner reads one piece *whatever comes after it*, given a promise about
the next character:

* `Reads cs ns ok` — the scanner finds the names `ns` in `cs` and then reads what follows as if
  it were the whole statement, provided the next character passes `ok`;
* the atoms: a plain character is read as nothing (`reads_plain`), a marker as its name
  (`reads_marker`), and a quoted text whose quote character is doubled inside as nothing
  (`reads_quoted`);
* `Reads.append` and `Reads.intercalate` read a concatenation piece by piece, and `ReadsEach`
  is a list of pieces read in order;
* `markers_names` gives the markers of a whole statement from its reading.

The promises that matter are few: after a marker no name character may follow (it would
lengthen the name), and after a closing quote not the same quote (it would read as a doubled
quote and reopen the text). A *break* — neither a name character nor a quote — keeps every
promise.
-/

namespace QueryKit.Sql

/-- A claim about every member of a list is decided by walking the list: for the characters of a
text, ahead of the instance that would try every character there is. -/
instance (priority := high) decidableForallMem {α : Type} (p : α → Prop) [DecidablePred p]
    (l : List α) : Decidable (∀ x ∈ l, p x) :=
  List.decidableBAll p l

/-- The characters that open a quoted text. -/
def isQuoteChar (c : Char) : Bool := c == '\'' || c == '"' || c == '\x60'

/-- A character that neither opens a quote nor a marker. -/
def isPlain (c : Char) : Bool := c != ':' && !isQuoteChar c

/-- A character after which no piece is misread: not part of a name, not a quote. -/
def isBreak (c : Char) : Bool := !nameChar false c && !isQuoteChar c

theorem isPlain_iff {c : Char} : isPlain c = true ↔ c ≠ ':' ∧ isQuoteChar c = false := by
  simp [isPlain]

/-- A break closes a quoted text of any quote character. -/
theorem isBreak_ne_quote {q c : Char} (hq : isQuoteChar q = true) (hc : isBreak c = true) :
    (c != q) = true := by
  simp only [isBreak, Bool.and_eq_true, Bool.not_eq_true'] at hc
  simp only [bne_iff_ne, ne_eq]
  rintro rfl
  rw [hc.2] at hq
  cases hq

/-! ## Readings -/

/-- **The names the scanner finds** in `cs`, with any fuel beyond its length and from any
start. -/
def Scans (cs : List Char) (ns : List String) : Prop :=
  ∀ fuel pos, cs.length < fuel → (scan fuel cs pos).map Marker.name = ns

/-- What may come after a piece: nothing, or a character `ok` accepts. -/
def Follows (ok : Char → Bool) : List Char → Prop
  | [] => True
  | c :: _ => ok c = true

/-- **A piece read as `ns`**: whatever follows it, within the promise `ok`, is read as if it
stood alone. -/
def Reads (cs : List Char) (ns : List String) (ok : Char → Bool) : Prop :=
  ∀ rest ms, Follows ok rest → Scans rest ms → Scans (cs ++ rest) (ns ++ ms)

theorem follows_true (rest : List Char) : Follows (fun _ => true) rest := by
  cases rest <;> trivial

theorem scans_nil : Scans [] [] := by
  intro fuel pos _
  cases fuel <;> rfl

theorem Reads.scans {cs : List Char} {ns : List String} {ok : Char → Bool} (h : Reads cs ns ok) :
    Scans cs ns := by
  simpa using h [] [] trivial scans_nil

theorem Reads.nil (ok : Char → Bool) : Reads [] [] ok := fun _ _ _ h => h

/-- The empty piece is read as nothing. -/
theorem Reads.names_nil {ns : List String} {ok : Char → Bool} (h : Reads [] ns ok) : ns = [] := by
  simpa [scan] using h.scans 1 0 (by simp)

/-- **Concatenation**: `a` then `b`, when what may follow `b` leaves `b` a fit successor of
`a`. -/
theorem Reads.append {a b : List Char} {ns ms : List String} {ok₁ ok₂ : Char → Bool}
    (ha : Reads a ns ok₁) (hb : Reads b ms ok₂)
    (hab : ∀ rest, Follows ok₂ rest → Follows ok₁ (b ++ rest)) :
    Reads (a ++ b) (ns ++ ms) ok₂ := by
  intro rest ks hrest hks
  have hbr : Scans (b ++ rest) (ms ++ ks) := hb rest ks hrest hks
  simpa [List.append_assoc] using ha (b ++ rest) (ms ++ ks) (hab rest hrest) hbr

/-- A stronger promise keeps the reading. -/
theorem Reads.mono {cs : List Char} {ns : List String} {ok ok' : Char → Bool} (h : Reads cs ns ok)
    (hle : ∀ c, ok' c = true → ok c = true) : Reads cs ns ok' := by
  intro rest ms hrest hms
  refine h rest ms ?_ hms
  cases rest with
  | nil => trivial
  | cons c _ => exact hle c hrest

/-- **The markers of a statement** are those of any reading of it. -/
theorem markers_names {q : String} {ns : List String} {ok : Char → Bool}
    (h : Reads q.toList ns ok) : (markers q).map Marker.name = ns :=
  h.scans (q.length + 1) 0 (by simp [String.length_toList])

/-! ## Plain characters -/

theorem scan_plain {c : Char} (hc : isPlain c = true) (f : Nat) (rest : List Char) (pos : Nat) :
    scan (f + 1) (c :: rest) pos = scan f rest (pos + c.utf8Size) := by
  obtain ⟨hcolon, hquote⟩ := isPlain_iff.mp hc
  have hq : (c == '\'' || c == '"' || c == '\x60') = false := hquote
  simp only [scan, hq, beq_iff_eq, hcolon, Bool.false_eq_true, ↓reduceIte]

theorem reads_plain {c : Char} (hc : isPlain c = true) : Reads [c] [] (fun _ => true) := by
  intro rest ms _ hms fuel pos hlen
  obtain ⟨f, rfl⟩ : ∃ f, fuel = f + 1 := ⟨fuel - 1, by simp at hlen; omega⟩
  rw [List.cons_append, List.nil_append, scan_plain hc]
  exact hms f _ (by simp at hlen; omega)

/-- A text of plain characters is read as nothing, and anything may follow it. -/
theorem reads_plainText : ∀ {s : List Char}, (∀ c ∈ s, isPlain c = true) →
    Reads s [] (fun _ => true)
  | [], _ => Reads.nil _
  | c :: s, h => by
    have hs : Reads s [] (fun _ => true) := reads_plainText (fun x hx => h x (by simp [hx]))
    simpa using (reads_plain (h c (by simp))).append hs (fun rest _ => follows_true _)

/-- A plain text before a piece is read as nothing. -/
theorem Reads.after_plain {p b : List Char} {ms : List String} {ok : Char → Bool}
    (hp : ∀ c ∈ p, isPlain c = true) (hb : Reads b ms ok) : Reads (p ++ b) ms ok := by
  simpa using (reads_plainText hp).append hb (fun _ _ => follows_true _)

/-- **Two pieces with a blank between.** -/
theorem Reads.spaced {a b : List Char} {ns ms : List String} (ha : Reads a ns isBreak)
    (hb : Reads b ms isBreak) : Reads (a ++ ' ' :: b) (ns ++ ms) isBreak := by
  have htail : Reads ([' '] ++ b) ms isBreak := Reads.after_plain (by decide) hb
  simpa using ha.append htail (fun _ _ => by simp [Follows]; decide)

/-! ## Markers -/

/-- **Marker names**: a letter or an underscore, then letters, digits and underscores. -/
def IsName : List Char → Prop
  | [] => False
  | d :: tl => nameChar true d = true ∧ ∀ x ∈ tl, nameChar false x = true

theorem takeWhile_name {tl rest : List Char} (htl : ∀ x ∈ tl, nameChar false x = true)
    (hrest : Follows (fun c => !nameChar false c) rest) :
    (tl ++ rest).takeWhile (nameChar false) = tl := by
  rw [List.takeWhile_append_of_pos htl]
  cases rest with
  | nil => simp
  | cons c r =>
    simp only [Follows, Bool.not_eq_true'] at hrest
    simp [hrest]

/-- A colon before a name is read as a marker spanning the colon and the whole name: the name
starts with `d`, not a colon, so this is no `::` cast. -/
theorem scan_marker {d : Char} {tl rest : List Char} (hd : nameChar true d = true)
    (htl : ∀ x ∈ tl, nameChar false x = true) (hrest : Follows (fun c => !nameChar false c) rest)
    (f pos : Nat) :
    scan (f + 1) (':' :: (d :: tl ++ rest)) pos =
      ⟨String.ofList (d :: tl), pos, pos + 1 + (tl.length + 1)⟩ ::
        scan f rest (pos + 1 + (tl.length + 1)) := by
  have hcolon : d ≠ ':' := by rintro rfl; simp [nameChar] at hd
  have hq : ¬((':' == '\'' || ':' == '"' || ':' == '\x60') = true) := by decide
  simp only [scan, if_neg hq, beq_self_eq_true, ↓reduceIte]
  split
  · rename_i more h
    simp only [List.cons_append, List.cons.injEq] at h
    exact absurd h.1 hcolon
  · simp [hd, takeWhile_name htl hrest]

/-- **A marker is read as its name**, provided no name character follows. -/
theorem reads_marker {n : List Char} (hn : IsName n) :
    Reads (':' :: n) [String.ofList n] (fun c => !nameChar false c) := by
  intro rest ms hrest hms fuel pos hlen
  match n, hn with
  | d :: tl, ⟨hd, htl⟩ =>
    obtain ⟨f, rfl⟩ : ∃ f, fuel = f + 1 := ⟨fuel - 1, by simp at hlen; omega⟩
    rw [List.cons_append, scan_marker hd htl hrest, List.map_cons, List.singleton_append]
    congr 1
    exact hms f _ (by simp at hlen; omega)

/-! ## Quoted text -/

/-- A quoted body with every quote character doubled is skipped up to its closing quote. -/
theorem skipQuoted_doubled (q : Char) (rest : List Char) (hrest : Follows (fun c => c != q) rest) :
    ∀ (body : List Char) (n : Nat), doubledOnly q body = true →
      ∃ m, skipQuoted q (body ++ q :: rest) n = some (rest, m) := by
  intro body
  induction body using doubledOnly.induct q with
  | case1 =>
    intro n _
    cases rest with
    | nil => exact ⟨n + 1, by simp [skipQuoted]⟩
    | cons c r =>
      simp only [Follows, bne_iff_ne, ne_eq] at hrest
      exact ⟨n + 1, by simp [skipQuoted, hrest]⟩
  | case2 c hc c' more ih =>
    intro n hb
    simp only [doubledOnly, hc, ↓reduceIte, Bool.and_eq_true, beq_iff_eq] at hb
    obtain ⟨rfl, hmore⟩ := hb
    obtain ⟨m, hm⟩ := ih (n + 2) hmore
    refine ⟨m, ?_⟩
    simp only [beq_iff_eq] at hc
    subst hc
    simpa [skipQuoted] using hm
  | case3 c hc =>
    intro n hb
    simp [doubledOnly, hc] at hb
  | case4 c more hc ih =>
    intro n hb
    rw [doubledOnly.eq_def] at hb
    simp only [if_neg hc] at hb
    obtain ⟨m, hm⟩ := ih (n + c.utf8Size) hb
    refine ⟨m, ?_⟩
    cases more with
    | nil => simpa [skipQuoted, hc] using hm
    | cons c' r => simpa [skipQuoted, hc] using hm

/-- **A quoted text is read as nothing**, provided the same quote does not follow. -/
theorem reads_quoted {q : Char} (hq : isQuoteChar q = true) {body : List Char}
    (hb : doubledOnly q body = true) : Reads (q :: (body ++ [q])) [] (fun c => c != q) := by
  intro rest ms hrest hms fuel pos hlen
  obtain ⟨f, rfl⟩ : ∃ f, fuel = f + 1 := ⟨fuel - 1, by simp at hlen; omega⟩
  obtain ⟨m, hm⟩ := skipQuoted_doubled q rest hrest body 0 hb
  have hquote : (q == '\'' || q == '"' || q == '\x60') = true := hq
  simp only [List.cons_append, List.append_assoc, scan, hquote, ↓reduceIte, hm,
    List.nil_append]
  exact hms f _ (by simp at hlen; omega)

/-! ## Lists of pieces -/

/-- **Pieces read in order**, each followed by a break or by nothing. -/
inductive ReadsEach : List (List Char) → List String → Prop
  | nil : ReadsEach [] []
  | cons {x : List Char} {xs : List (List Char)} {ns ms : List String} :
      Reads x ns isBreak → ReadsEach xs ms → ReadsEach (x :: xs) (ns ++ ms)

theorem ReadsEach.append {xs ys : List (List Char)} {ns ms : List String} (hx : ReadsEach xs ns)
    (hy : ReadsEach ys ms) : ReadsEach (xs ++ ys) (ns ++ ms) := by
  induction hx with
  | nil => simpa using hy
  | cons hr _ ih => simpa [List.append_assoc] using ReadsEach.cons hr ih

/-- Leaving out empty pieces reads the same names. -/
theorem ReadsEach.filter_nonempty {xs : List String} {ns : List String}
    (h : ReadsEach (xs.map String.toList) ns) :
    ReadsEach ((xs.filter (fun s => !s.isEmpty)).map String.toList) ns := by
  induction xs generalizing ns with
  | nil => cases h; exact .nil
  | cons x xs ih =>
    cases h with
    | cons hr hxs =>
      by_cases hx : x.isEmpty
      · have hx' : x = "" := by simpa using hx
        subst hx'
        have hnil : _ = [] := Reads.names_nil (by simpa using hr)
        simpa [hx, hnil] using ih hxs
      · simpa [List.filter_cons, hx] using ReadsEach.cons hr (ih hxs)

/-- **Pieces joined by a plain separator that starts with a break** are read in order. -/
theorem Reads.intercalate {sep : List Char} {c : Char} {t : List Char} (hsep : sep = c :: t)
    (hc : isBreak c = true) (hplain : ∀ x ∈ c :: t, isPlain x = true) :
    ∀ {xs : List (List Char)} {ns : List String}, ReadsEach xs ns →
      Reads (sep.intercalate xs) ns isBreak := by
  intro xs ns h
  induction h with
  | nil => exact Reads.nil isBreak
  | @cons x xs ns ms hx hxs ih =>
    cases hxs with
    | nil => simpa using hx
    | @cons y ys ns' ms' hy hys =>
      have hs : Reads sep [] (fun _ => true) := hsep ▸ reads_plainText hplain
      have htail := hs.append ih (fun rest _ => follows_true _)
      have hall := hx.append htail (fun rest _ => by simp [hsep, Follows, hc])
      simpa [List.intercalate_cons_cons, List.append_assoc] using hall

end QueryKit.Sql
