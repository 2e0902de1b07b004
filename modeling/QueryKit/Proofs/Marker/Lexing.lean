import QueryKit.Proofs.Marker.Splice
import Mathlib.Data.List.Pairwise

/-!
# Where the markers of a statement stand

The marker scanner cuts a statement into lexemes: a quoted text (a quote character, a body in
which that character only comes doubled, and the closing quote unless the text runs to the end),
a double colon, a marker (a colon and a name), or any other single character, a lone colon among
them. Neighbours constrain each other: after a closed quoted text the same quote does not follow
(it would read as a doubled quote), after a marker no name character (it would lengthen the
name), after a lone colon neither a colon nor a character that starts a name, and an unclosed
quoted text comes last.

* `Lexeme`, `Lexed` and `placed`: the lexemes, their well-formed sequences, and each lexeme with
  the byte offset where it starts;
* `scan_lexeme`: one step of the scanner reads one lexeme, and `scan_lexed` reads a whole
  lexing, given more fuel than it has characters, as the markers of its marker lexemes;
* `exists_lexed`: every text has a lexing;
* `markers_well_formed`: so the scan ends within its fuel, every marker is a colon and a whole
  name at its byte offsets, the markers come in order without overlapping, and none starts
  inside a quoted text or on either colon of a double colon.
-/

namespace QueryKit.Sql

/-- **Lexemes** of a statement, as the marker scanner cuts it. -/
inductive Lexeme where
  /-- A quoted text: its quote character, its body, and whether its closing quote is there. -/
  | quoted (q : Char) (body : List Char) (closed : Bool)
  /-- A double colon. -/
  | cast
  /-- A colon and a name. -/
  | marker (name : List Char)
  /-- Any other character, a colon before no name among them. -/
  | plain (c : Char)
  deriving Repr, DecidableEq

namespace Lexeme

/-- The characters of a lexeme. -/
def chars : Lexeme → List Char
  | .quoted q body closed => q :: body ++ (if closed then [q] else [])
  | .cast => [':', ':']
  | .marker name => ':' :: name
  | .plain c => [c]

/-- A lexeme is well formed on its own: a quoted text opens with a quote character and only
doubles it inside, a marker's name is a name, and a plain character opens no quoted text. -/
def Valid : Lexeme → Prop
  | .quoted q body _ => isQuoteChar q = true ∧ doubledOnly q body = true
  | .cast => True
  | .marker name => IsName name
  | .plain c => isQuoteChar c = false

/-- What a lexeme lets follow it, from the next character (`none` at the end). -/
def Admits : Lexeme → Option Char → Prop
  | .quoted q _ true, next => next ≠ some q
  | .quoted _ _ false, next => next = none
  | .cast, _ => True
  | .marker _, next => ∀ c ∈ next, nameChar false c = false
  | .plain c, next => c = ':' → next ≠ some ':' ∧ ∀ d ∈ next, nameChar true d = false

/-- Whether the scanner passes a lexeme over without looking inside: a quoted text or a double
colon. -/
def skipped : Lexeme → Bool
  | .quoted .. => true
  | .cast => true
  | .marker _ => false
  | .plain _ => false

/-- The marker that a lexeme stands for, placed at a byte offset. -/
def marker? (p : Nat × Lexeme) : Option Marker :=
  match p.2 with
  | .marker name => some ⟨String.ofList name, p.1, p.1 + 1 + name.length⟩
  | _ => none

theorem chars_ne_nil (l : Lexeme) : l.chars ≠ [] := by
  cases l <;> simp [chars]

theorem one_le_byteLength_chars (l : Lexeme) : 1 ≤ byteLength l.chars := by
  have hpos : ∀ (c : Char) (cs : List Char), 1 ≤ byteLength (c :: cs) := fun c cs => by
    rw [byteLength_cons]
    have := Char.utf8Size_pos c
    omega
  cases l with
  | quoted q body closed => exact hpos q _
  | cast => exact hpos ':' _
  | marker name => exact hpos ':' name
  | plain c => exact hpos c []

theorem marker?_eq_some {p : Nat × Lexeme} {m : Marker} (h : marker? p = some m) :
    ∃ name, p.2 = .marker name ∧ m = ⟨String.ofList name, p.1, p.1 + 1 + name.length⟩ := by
  obtain ⟨pos, l⟩ := p
  cases l with
  | marker name => exact ⟨name, rfl, (Option.some.inj h).symm⟩
  | quoted | cast | plain => cases h

end Lexeme

/-- The characters of lexemes one after another. -/
def spell (ls : List Lexeme) : List Char := ls.flatMap Lexeme.chars

@[simp] theorem spell_nil : spell [] = [] := rfl

@[simp] theorem spell_cons (l : Lexeme) (ls : List Lexeme) :
    spell (l :: ls) = l.chars ++ spell ls :=
  List.flatMap_cons

@[simp] theorem spell_append (ls ls' : List Lexeme) : spell (ls ++ ls') = spell ls ++ spell ls' :=
  List.flatMap_append

/-- **A lexing**: every lexeme well formed and followed by what it admits. -/
inductive Lexed : List Lexeme → Prop
  | nil : Lexed []
  | cons {l : Lexeme} {ls : List Lexeme} : l.Valid → l.Admits (spell ls).head? → Lexed ls →
      Lexed (l :: ls)

/-- Each lexeme with the byte offset where it starts, the first at `pos`. -/
def placed : Nat → List Lexeme → List (Nat × Lexeme)
  | _, [] => []
  | pos, l :: ls => (pos, l) :: placed (pos + byteLength l.chars) ls

theorem filterMap_placed_cons (pos : Nat) (l : Lexeme) (ls : List Lexeme) :
    (placed pos (l :: ls)).filterMap Lexeme.marker? =
      (Lexeme.marker? (pos, l)).toList ++
        (placed (pos + byteLength l.chars) ls).filterMap Lexeme.marker? := by
  rw [placed]
  cases h : Lexeme.marker? (pos, l) with
  | none => rw [List.filterMap_cons_none h, Option.toList_none, List.nil_append]
  | some m => rw [List.filterMap_cons_some h, Option.toList_some, List.singleton_append]

/-! ## Quoted texts -/

/-- A body that only doubles its quote character holds no closing quote. -/
theorem skipQuoted_of_doubledOnly (q : Char) :
    ∀ (body : List Char) (n : Nat), doubledOnly q body = true → skipQuoted q body n = none := by
  intro body
  induction body using doubledOnly.induct q with
  | case1 => intro n _; rfl
  | case2 c hc c' more ih =>
    intro n hb
    simp only [doubledOnly, hc, ↓reduceIte, Bool.and_eq_true] at hb
    simp only [skipQuoted, hc, hb.1, ↓reduceIte]
    exact ih (n + 2) hb.2
  | case3 c hc =>
    intro n hb
    simp [doubledOnly, hc] at hb
  | case4 c more hc ih =>
    intro n hb
    rw [doubledOnly.eq_def] at hb
    simp only [if_neg hc] at hb
    cases more with
    | nil => simp [skipQuoted, hc]
    | cons c' r =>
      simp only [skipQuoted, hc, Bool.false_eq_true, ↓reduceIte]
      exact ih (n + c.utf8Size) hb

/-- **A quoted body reaches its closing quote** unless it only doubles the quote character: up
to there the quote comes doubled, and after it the quote does not follow. The induction follows
`doubledOnly`: past a doubled quote the closing quote lies further on. -/
theorem exists_closing (q : Char) :
    ∀ cs : List Char, doubledOnly q cs = false →
      ∃ body after, doubledOnly q body = true ∧ cs = body ++ q :: after ∧
        after.head? ≠ some q := by
  intro cs
  induction cs using doubledOnly.induct q with
  | case1 => intro h; cases h
  | case2 c hc c' more ih =>
    intro h
    have hcq : c = q := by simpa using hc
    by_cases hc' : c' = q
    · have hmore : doubledOnly q more = false := by simpa [doubledOnly, hc, hc'] using h
      obtain ⟨body, after, hb, rfl, hafter⟩ := ih hmore
      refine ⟨c :: c' :: body, after, ?_, rfl, hafter⟩
      simpa [doubledOnly, hc, hc'] using hb
    · exact ⟨[], c' :: more, rfl, by simp [hcq], by simpa using hc'⟩
  | case3 c hc =>
    intro _
    simp only [beq_iff_eq] at hc
    exact ⟨[], [], rfl, by simp [hc], by simp⟩
  | case4 c more hc ih =>
    intro h
    rw [doubledOnly.eq_def] at h
    simp only [if_neg hc] at h
    obtain ⟨body, after, hb, rfl, hafter⟩ := ih h
    refine ⟨c :: body, after, ?_, rfl, hafter⟩
    rw [doubledOnly.eq_def]
    simp only [if_neg hc]
    exact hb

/-- A closed quoted text is skipped up to its closing quote, its bytes counted. -/
theorem skipQuoted_closed {q : Char} (hq : isQuoteChar q = true) {body rest : List Char}
    (hb : doubledOnly q body = true) (hrest : Follows (fun c => c != q) rest) :
    skipQuoted q (body ++ q :: rest) 0 = some (rest, byteLength body + 1) := by
  obtain ⟨m, hm⟩ := skipQuoted_doubled q rest hrest body 0 hb
  obtain ⟨passed, hcs, hused⟩ := skipQuoted_some (isQuoteChar_utf8Size hq) hm
  have hsame : passed ++ rest = (body ++ [q]) ++ rest := by
    rw [← hcs, List.append_assoc, List.singleton_append]
  rw [hm, hused, List.append_cancel_right hsame, byteLength_append]
  simp [isQuoteChar_utf8Size hq]

/-! ## The scanner reads lexemes -/

theorem scan_nil (fuel pos : Nat) : scan fuel [] pos = [] := by
  cases fuel <;> rfl

/-- **One step of the scanner reads one lexeme**: the marker it stands for, if any, and then
the rest from the lexeme's end. A closed quoted text is skipped to its closing quote, and the
scan goes on after it; an unclosed one ends the scan, and nothing follows it. -/
theorem scan_lexeme {l : Lexeme} {rest : List Char} (hv : l.Valid) (ha : l.Admits rest.head?)
    (f pos : Nat) :
    scan (f + 1) (l.chars ++ rest) pos =
      (Lexeme.marker? (pos, l)).toList ++ scan f rest (pos + byteLength l.chars) := by
  cases l with
  | quoted q body closed =>
    obtain ⟨hq, hb⟩ := hv
    cases closed with
    | true =>
      have hfollow : Follows (fun c => c != q) rest := by
        cases rest with
        | nil => trivial
        | cons c r => simpa [Follows, Lexeme.Admits] using ha
      have hstep : scan (f + 1) (q :: (body ++ q :: rest)) pos =
          scan f rest (pos + 1 + (byteLength body + 1)) :=
        scan_quote_some hq (skipQuoted_closed hq hb hfollow)
      simp only [Lexeme.chars, ↓reduceIte, List.cons_append, List.append_assoc, List.nil_append]
      have hpos : pos + 1 + (byteLength body + 1) = pos + byteLength (q :: (body ++ [q])) := by
        simp [isQuoteChar_utf8Size hq]
        omega
      rw [hstep, hpos]
      rfl
    | false =>
      have hnil : rest = [] := by simpa [Lexeme.Admits] using ha
      subst hnil
      simp only [Lexeme.chars, Bool.false_eq_true, ↓reduceIte, List.append_nil]
      rw [scan_quote_none hq (skipQuoted_of_doubledOnly q body 0 hb), scan_nil]
      rfl
  | cast =>
    simp only [Lexeme.chars, List.cons_append, List.nil_append]
    rw [scan_cast]
    rfl
  | marker name =>
    obtain ⟨d, tl, rfl⟩ : ∃ d tl, name = d :: tl := by
      cases name with
      | nil => exact absurd hv id
      | cons d tl => exact ⟨d, tl, rfl⟩
    obtain ⟨hd, htl⟩ := hv
    have hfollow : Follows (fun c => !nameChar false c) rest := by
      cases rest with
      | nil => trivial
      | cons c r => simpa [Follows, Lexeme.Admits] using ha
    have hbytes : byteLength (Lexeme.chars (.marker (d :: tl))) = 1 + (tl.length + 1) := by
      have hcolon : (':').utf8Size = 1 := rfl
      rw [Lexeme.chars, byteLength_cons, byteLength_cons, byteLength_of_nameChars htl,
        nameChar_utf8Size hd]
      omega
    have hstop : pos + (1 + (tl.length + 1)) = pos + 1 + (tl.length + 1) := by omega
    rw [show Lexeme.chars (.marker (d :: tl)) ++ rest = ':' :: (d :: tl ++ rest) from rfl,
      scan_marker hd htl hfollow, hbytes, hstop]
    rfl
  | plain c =>
    by_cases hc : c = ':'
    · subst hc
      obtain ⟨hcast, hname⟩ := ha rfl
      simp only [Lexeme.chars, List.cons_append, List.nil_append]
      rw [scan_colon_bare hcast hname]
      rfl
    · have hplain : isPlain c = true := isPlain_iff.mpr ⟨hc, hv⟩
      simp only [Lexeme.chars, List.cons_append, List.nil_append]
      rw [scan_plain hplain]
      simp [Lexeme.marker?]

/-- **The scanner reads a lexing as its markers**, at the byte offsets where they stand, given
more fuel than the lexing has characters. -/
theorem scan_lexed {ls : List Lexeme} (h : Lexed ls) :
    ∀ fuel pos, (spell ls).length < fuel →
      scan fuel (spell ls) pos = (placed pos ls).filterMap Lexeme.marker? := by
  induction h with
  | nil => intro fuel pos _; exact scan_nil fuel pos
  | @cons l ls hv ha _ ih =>
    intro fuel pos hlen
    have hchars : 1 ≤ l.chars.length := List.length_pos_iff.mpr l.chars_ne_nil
    obtain ⟨f, rfl⟩ : ∃ f, fuel = f + 1 := ⟨fuel - 1, by simp at hlen; omega⟩
    rw [spell_cons, scan_lexeme hv ha, filterMap_placed_cons,
      ih f _ (by simp at hlen; omega)]

/-! ## Every text has a lexing -/

/-- What follows a name taken whole does not start with a name character. -/
theorem head_dropWhile_nameChar (cs : List Char) :
    ∀ x ∈ (cs.dropWhile (nameChar false)).head?, nameChar false x = false := by
  intro x hx
  have hne : cs.dropWhile (nameChar false) ≠ [] := by
    intro hnil
    simp [hnil] at hx
  rw [List.head?_eq_some_head hne, Option.mem_some_iff] at hx
  rw [← hx]
  exact List.head_dropWhile_not (nameChar false) hne

/-- **Every text has a lexing**: quoted texts up to their closing quote, or to the end when none
closes them, double colons, colons before a name with the whole name, and any other character
alone. -/
theorem exists_lexed : ∀ cs : List Char, ∃ ls, Lexed ls ∧ spell ls = cs
  | [] => ⟨[], .nil, rfl⟩
  | c :: rest => by
    by_cases hq : isQuoteChar c = true
    · cases hd : doubledOnly c rest with
      | true =>
        refine ⟨[.quoted c rest false], .cons ⟨hq, hd⟩ rfl .nil, ?_⟩
        simp [Lexeme.chars]
      | false =>
        obtain ⟨body, after, hb, rfl, hafter⟩ := exists_closing c rest hd
        obtain ⟨ls, hls, hspell⟩ := exists_lexed after
        have hclosed : Lexeme.Admits (.quoted c body true) (spell ls).head? := by
          rw [hspell]
          exact hafter
        refine ⟨.quoted c body true :: ls, .cons ⟨hq, hb⟩ hclosed hls, ?_⟩
        simp [Lexeme.chars, hspell]
    · have hvalid : (Lexeme.plain c).Valid := by simpa [Lexeme.Valid] using hq
      by_cases hc : c = ':'
      · subst hc
        cases rest with
        | nil => exact ⟨[.plain ':'], .cons hvalid (fun _ => ⟨by simp, by simp⟩) .nil, rfl⟩
        | cons d more =>
          by_cases hcast : d = ':'
          · subst hcast
            obtain ⟨ls, hls, hspell⟩ := exists_lexed more
            exact ⟨.cast :: ls, .cons trivial trivial hls, by simp [Lexeme.chars, hspell]⟩
          by_cases hn : nameChar true d = true
          · have hshort : (more.dropWhile (nameChar false)).length ≤ more.length :=
              (List.dropWhile_sublist _).length_le
            obtain ⟨ls, hls, hspell⟩ := exists_lexed (more.dropWhile (nameChar false))
            have hname : IsName (d :: more.takeWhile (nameChar false)) :=
              ⟨hn, List.all_eq_true.mp List.all_takeWhile⟩
            have hafter : Lexeme.Admits (.marker (d :: more.takeWhile (nameChar false)))
                (spell ls).head? := by
              rw [hspell]
              exact head_dropWhile_nameChar more
            refine ⟨.marker (d :: more.takeWhile (nameChar false)) :: ls,
              .cons hname hafter hls, ?_⟩
            simp [Lexeme.chars, hspell]
          · obtain ⟨ls, hls, hspell⟩ := exists_lexed (d :: more)
            have hafter : Lexeme.Admits (.plain ':') (spell ls).head? := by
              intro _
              rw [hspell]
              exact ⟨by simpa using hcast, by simpa using hn⟩
            exact ⟨.plain ':' :: ls, .cons hvalid hafter hls, by simp [Lexeme.chars, hspell]⟩
      · obtain ⟨ls, hls, hspell⟩ := exists_lexed rest
        exact ⟨.plain c :: ls, .cons hvalid (fun h => absurd h hc) hls,
          by simp [Lexeme.chars, hspell]⟩
termination_by cs => cs.length
decreasing_by
  all_goals
    subst_vars
    simp only [List.length_cons, List.length_append]
    omega

/-! ## Where the lexemes stand -/

theorem le_of_mem_placed {p : Nat × Lexeme} :
    ∀ {ls : List Lexeme} {pos : Nat}, p ∈ placed pos ls → pos ≤ p.1
  | [], _, h => by simp [placed] at h
  | l :: ls, pos, h => by
    rw [placed, List.mem_cons] at h
    rcases h with rfl | h
    · exact Nat.le_refl _
    · have := le_of_mem_placed h
      omega

/-- **A placed lexeme** stands after the characters of the lexemes before it. -/
theorem mem_placed {p : Nat × Lexeme} :
    ∀ {ls : List Lexeme} {pos : Nat}, p ∈ placed pos ls →
      ∃ ls₁ ls₂, ls = ls₁ ++ p.2 :: ls₂ ∧ p.1 = pos + byteLength (spell ls₁)
  | [], _, h => by simp [placed] at h
  | l :: ls, pos, h => by
    rw [placed, List.mem_cons] at h
    rcases h with rfl | h
    · exact ⟨[], ls, rfl, by simp⟩
    · obtain ⟨ls₁, ls₂, rfl, hp⟩ := mem_placed h
      refine ⟨l :: ls₁, ls₂, rfl, ?_⟩
      rw [hp, spell_cons, byteLength_append, Nat.add_assoc]

/-- **Lexemes come in order without overlapping**: each ends where or before the next starts. -/
theorem placed_pairwise : ∀ (pos : Nat) (ls : List Lexeme),
    (placed pos ls).Pairwise (fun a b => a.1 + byteLength a.2.chars ≤ b.1)
  | _, [] => List.Pairwise.nil
  | pos, l :: ls => by
    rw [placed, List.pairwise_cons]
    exact ⟨fun b hb => le_of_mem_placed hb, placed_pairwise _ ls⟩

theorem Lexed.drop : ∀ {ls₁ ls₂ : List Lexeme}, Lexed (ls₁ ++ ls₂) → Lexed ls₂
  | [], _, h => h
  | _ :: _, _, .cons _ _ h => Lexed.drop h

theorem length_le_byteLength : ∀ cs : List Char, cs.length ≤ byteLength cs
  | [] => Nat.le_refl 0
  | c :: cs => by
    have := Char.utf8Size_pos c
    have := length_le_byteLength cs
    rw [List.length_cons, byteLength_cons]
    omega

/-! ## The markers -/

/-- **A marker standing in a statement**: the statement's characters are a text whose bytes
reach the marker's start, a colon, the marker's name up to its stop, and a text that does not
begin with a name character. -/
def Marker.StandsIn (m : Marker) (q : String) : Prop :=
  ∃ pre name post, q.toList = pre ++ ':' :: name ++ post ∧ IsName name ∧
    m.name = String.ofList name ∧ m.start = byteLength pre ∧
    m.stop = m.start + 1 + name.length ∧
    ∀ c ∈ post.head?, nameChar false c = false

/-- A marker standing in a statement starts before it stops, and stops within the statement. -/
theorem Marker.StandsIn.bounds {m : Marker} {q : String} (h : m.StandsIn q) :
    m.start < m.stop ∧ m.stop ≤ q.utf8ByteSize := by
  obtain ⟨pre, name, post, hq, -, -, hstart, hstop, -⟩ := h
  have hcolon : (':').utf8Size = 1 := rfl
  have hsize : q.utf8ByteSize = byteLength pre + 1 + byteLength name + byteLength post := by
    rw [utf8ByteSize_eq_byteLength, hq, byteLength_append, byteLength_append, byteLength_cons]
    omega
  have := length_le_byteLength name
  omega

/-- **Each marker of a lexing stands in its text**, as the colon and the whole name of its marker
lexeme: the lexeme is well formed, and what follows it does not lengthen its name. -/
theorem Lexed.standsIn {ls : List Lexeme} (h : Lexed ls) {q : String} (hq : q.toList = spell ls)
    {m : Marker} (hm : m ∈ (placed 0 ls).filterMap Lexeme.marker?) : m.StandsIn q := by
  obtain ⟨p, hp, hpm⟩ := List.mem_filterMap.mp hm
  obtain ⟨name, hl, rfl⟩ := Lexeme.marker?_eq_some hpm
  obtain ⟨ls₁, ls₂, rfl, hpos⟩ := mem_placed hp
  rw [hl] at h hq
  cases Lexed.drop h with
  | cons hv ha _ =>
    refine ⟨spell ls₁, name, spell ls₂, ?_, hv, rfl, by rw [hpos, Nat.zero_add], rfl, ha⟩
    rw [hq, spell_append, spell_cons, List.append_assoc]
    rfl

/-- **The markers of a lexing come in order**, each ending where or before the next starts:
a marker takes at least a byte for its colon and one for each character of its name. -/
theorem markers_pairwise (pos : Nat) (ls : List Lexeme) :
    ((placed pos ls).filterMap Lexeme.marker?).Pairwise (fun a b => a.stop ≤ b.start) := by
  refine (placed_pairwise pos ls).filterMap Lexeme.marker? ?_
  intro a a' hle b hb b' hb'
  obtain ⟨name, hl, rfl⟩ := Lexeme.marker?_eq_some hb
  obtain ⟨name', -, rfl⟩ := Lexeme.marker?_eq_some hb'
  have hcolon : (':').utf8Size = 1 := rfl
  have hbytes : byteLength a.2.chars = 1 + byteLength name := by
    rw [hl, Lexeme.chars, byteLength_cons, hcolon]
  have := length_le_byteLength name
  dsimp only
  omega

/-- **No marker starts inside a lexeme the scanner skips**: a quoted text or a double colon lies
wholly before or wholly after each marker's start, as any two lexemes of a lexing lie apart. -/
theorem marker_apart_skipped {ls : List Lexeme} {pos : Nat} {m : Marker}
    (hm : m ∈ (placed pos ls).filterMap Lexeme.marker?) {p : Nat × Lexeme}
    (hp : p ∈ placed pos ls) (hskip : p.2.skipped = true) :
    m.start < p.1 ∨ p.1 + byteLength p.2.chars ≤ m.start := by
  obtain ⟨a, ha, ham⟩ := List.mem_filterMap.mp hm
  obtain ⟨name, hl, rfl⟩ := Lexeme.marker?_eq_some ham
  have hne : a ≠ p := by
    rintro rfl
    rw [hl] at hskip
    cases hskip
  have hsymm : Std.Symm (fun x y : Nat × Lexeme =>
      x.1 + byteLength x.2.chars ≤ y.1 ∨ y.1 + byteLength y.2.chars ≤ x.1) :=
    ⟨fun _ _ h => h.symm⟩
  have hapart : a.1 + byteLength a.2.chars ≤ p.1 ∨ p.1 + byteLength p.2.chars ≤ a.1 :=
    List.Pairwise.forall (R := fun x y : Nat × Lexeme =>
      x.1 + byteLength x.2.chars ≤ y.1 ∨ y.1 + byteLength y.2.chars ≤ x.1)
      ((placed_pairwise pos ls).imp Or.inl) ha hp hne
  have := Lexeme.one_le_byteLength_chars a.2
  dsimp only
  omega

/-- The markers of a statement are those of any lexing of it. -/
theorem markers_eq_of_lexed {q : String} {ls : List Lexeme} (h : Lexed ls)
    (hq : spell ls = q.toList) : markers q = (placed 0 ls).filterMap Lexeme.marker? := by
  rw [markers, ← hq]
  exact scan_lexed h _ 0 (by rw [hq, String.length_toList]; omega)

/-- **The markers of a statement are well formed, in order and outside what is skipped.** The
scan ends within its fuel: any fuel beyond the statement's length finds the same markers. Each
marker starts before it stops, stops within the statement, and stands in it as a colon at its
start and a whole name up to its stop. The markers come in order, each stopping where or before
the next starts. The statement has a lexing, and for every lexing the markers are exactly its
marker lexemes, none starting inside a quoted text or on either colon of a double colon. -/
theorem markers_well_formed (q : String) :
    (∀ fuel, q.length < fuel → scan fuel q.toList 0 = markers q) ∧
    (∀ m ∈ markers q, m.start < m.stop ∧ m.stop ≤ q.utf8ByteSize ∧ m.StandsIn q) ∧
    (markers q).Pairwise (fun a b => a.stop ≤ b.start) ∧
    (∃ ls, Lexed ls ∧ spell ls = q.toList) ∧
    ∀ ls, Lexed ls → spell ls = q.toList →
      markers q = (placed 0 ls).filterMap Lexeme.marker? ∧
      ∀ m ∈ markers q, ∀ p ∈ placed 0 ls, p.2.skipped = true →
        m.start < p.1 ∨ p.1 + byteLength p.2.chars ≤ m.start := by
  obtain ⟨ls, hls, hspell⟩ := exists_lexed q.toList
  have hmarkers := markers_eq_of_lexed hls hspell
  refine ⟨fun fuel hfuel => ?_, fun m hm => ?_, ?_, ⟨ls, hls, hspell⟩,
    fun ls' hls' hspell' => ?_⟩
  · rw [hmarkers, ← hspell]
    exact scan_lexed hls fuel 0 (by rw [hspell, String.length_toList]; exact hfuel)
  · have hstands := hls.standsIn hspell.symm (by rwa [hmarkers] at hm)
    exact ⟨hstands.bounds.1, hstands.bounds.2, hstands⟩
  · rw [hmarkers]
    exact markers_pairwise 0 ls
  · have hmarkers' := markers_eq_of_lexed hls' hspell'
    refine ⟨hmarkers', fun m hm p hp hskip => ?_⟩
    exact marker_apart_skipped (by rwa [hmarkers'] at hm) hp hskip

example : (markers "a = :v1 AND 'x:y' = :n_2::text").map (fun m => (m.name, m.start, m.stop)) =
    [("v1", 4, 7), ("n_2", 20, 24)] := by decide

end QueryKit.Sql
