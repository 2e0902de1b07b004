import QueryKit.Proofs.Where.Guard

/-!
# How a condition list is written

A condition list is written entry by entry, one space apart. A comparison is written as
`left op right`; a group as the text of its own entries in parentheses, or not at all when that
text is empty. Of the entries written, the first stands bare and every later one after its own
joiner. Whether a joiner is written depends on whether something was written before, not on the
entry's place in the list: a list that starts with groups writing nothing still starts with its
first comparison or parenthesis, and no group is written as `()`.

* `Dialect.entryText` is the text of one entry with its joiner, and `joinTexts` joins such texts;
* `parts_true` and `parts_false`: the writer's pieces are the texts of the entries that write
  something, the first one bare unless something was written before;
* `conditions_write_nonempty_entries`: a condition list is written as the texts of its entries
  that write something, and as nothing exactly when every entry is a group written as nothing,
  which is when it holds no comparison at any depth;
* `Reading.text` writes a reading out, and `conditions_eq_text_readingAll` says a condition list
  is written as the text of its reading (`Entry.readingAll`), an entry reading as nothing exactly
  when it is written as nothing (`read_eq_nil_iff`): the reading that
  `written_where_holds_as_chain` evaluates is that of the written `WHERE`.
-/

namespace QueryKit.Sql

/-- A text after its joiner. -/
def joined (p : Conjunction × String) : String := p.1.keyword ++ " " ++ p.2

/-- **Texts joined in order**: the first bare, every later one after its joiner. -/
def joinTexts : List (Conjunction × String) → List String
  | [] => []
  | p :: rest => p.2 :: rest.map joined

theorem joinTexts_eq_nil_iff {ps : List (Conjunction × String)} :
    joinTexts ps = [] ↔ ps = [] := by
  cases ps <;> simp [joinTexts]

namespace Entry

mutual

/-- The comparisons of an entry at any depth, in order. -/
def comparisons : Entry → List (Term × String × Term)
  | .compare l op r _ => [(l, op, r)]
  | .group inner _ => comparisonsAll inner

/-- The comparisons of entries at any depth, in order. -/
def comparisonsAll : List Entry → List (Term × String × Term)
  | [] => []
  | e :: rest => comparisons e ++ comparisonsAll rest

end

end Entry

namespace Dialect

/-- **The text of one entry**, with its joiner: a comparison as `left op right`, a group as the
text of its entries in parentheses, and nothing for a group whose entries write nothing. -/
def entryText (d : Dialect) : Entry → Option (Conjunction × String)
  | .compare l op r conj => some (conj, d.term l ++ " " ++ op ++ " " ++ d.term r)
  | .group inner conj =>
    if d.conditions inner = "" then none else some (conj, parenthesize (d.conditions inner))

/-- An entry writes nothing exactly when it is a group whose entries write nothing. -/
theorem entryText_eq_none_iff (d : Dialect) (e : Entry) :
    d.entryText e = none ↔ ∃ inner c, e = .group inner c ∧ d.conditions inner = "" := by
  cases e with
  | compare l op r conj => simp [entryText]
  | group inner conj => simp [entryText]

variable {d : Dialect} {first : Bool} {e : Entry} {rest : List Entry}

/-- The text of a group is the text of its entries, the way the writer computes it. -/
theorem intercalate_parts_true (inner : List Entry) :
    " ".intercalate (d.parts true inner) = d.conditions inner := rfl

/-- An entry that writes nothing is passed over. -/
theorem parts_of_entryText_none (h : d.entryText e = none) :
    d.parts first (e :: rest) = d.parts first rest := by
  obtain ⟨inner, conj, rfl, hempty⟩ := (entryText_eq_none_iff d e).mp h
  have hblank : (d.conditions inner).isEmpty = true := by simp [hempty]
  simp only [parts, intercalate_parts_true, hblank, ↓reduceIte]

/-- An entry that writes a text is written bare when nothing was written before, and after its
joiner otherwise; what follows it is never first. -/
theorem parts_of_entryText_some {p : Conjunction × String} (h : d.entryText e = some p) :
    d.parts first (e :: rest) = (if first then p.2 else joined p) :: d.parts false rest := by
  cases e with
  | compare l op r conj =>
    obtain rfl := Option.some.inj h.symm
    rw [parts]
    rfl
  | group inner conj =>
    have hwritten : d.conditions inner ≠ "" := by
      intro hempty
      simp [entryText, hempty] at h
    rw [entryText, if_neg hwritten] at h
    obtain rfl := Option.some.inj h.symm
    have hne : (d.conditions inner).isEmpty = false := by simpa using hwritten
    simp only [parts, intercalate_parts_true, hne, Bool.false_eq_true, ↓reduceIte]
    rfl

/-- **After a written entry** every entry that writes a text is written after its joiner. -/
theorem parts_false (d : Dialect) (es : List Entry) :
    d.parts false es = (es.filterMap d.entryText).map joined := by
  induction es with
  | nil => simp [parts]
  | cons e rest ih =>
    cases h : d.entryText e with
    | none => rw [parts_of_entryText_none h, List.filterMap_cons_none h, ih]
    | some p =>
      rw [parts_of_entryText_some h, List.filterMap_cons_some h, List.map_cons, ih]
      rfl

/-- **From the start** the first entry that writes a text is written bare, however many entries
before it wrote nothing, and every later one after its joiner. -/
theorem parts_true (d : Dialect) (es : List Entry) :
    d.parts true es = joinTexts (es.filterMap d.entryText) := by
  induction es with
  | nil => simp [parts, joinTexts]
  | cons e rest ih =>
    cases h : d.entryText e with
    | none => rw [parts_of_entryText_none h, List.filterMap_cons_none h, ih]
    | some p =>
      rw [parts_of_entryText_some h, List.filterMap_cons_some h, parts_false]
      rfl

theorem conditions_eq_joinTexts (d : Dialect) (es : List Entry) :
    d.conditions es = " ".intercalate (joinTexts (es.filterMap d.entryText)) := by
  rw [← intercalate_parts_true, parts_true]

/-- **A list is written as nothing** exactly when each of its entries is a group written as
nothing. -/
theorem conditions_eq_empty_iff_groups (d : Dialect) (es : List Entry) :
    d.conditions es = "" ↔
      ∀ e ∈ es, ∃ inner c, e = .group inner c ∧ d.conditions inner = "" := by
  rw [← intercalate_parts_true, intercalate_eq_empty_iff (parts_ne_empty d true es), parts_true,
    joinTexts_eq_nil_iff, List.filterMap_eq_nil_iff]
  exact forall₂_congr fun e _ => entryText_eq_none_iff d e

/-- **A list is written as nothing** exactly when it holds no comparison at any depth: a group
writes nothing exactly when its own entries hold no comparison, and so on down. -/
theorem conditions_eq_empty_iff_comparisons (d : Dialect) :
    ∀ es : List Entry, d.conditions es = "" ↔ Entry.comparisonsAll es = []
  | [] => by
    rw [conditions_eq_empty_iff_groups]
    simp [Entry.comparisonsAll]
  | .compare l op r conj :: rest => by
    rw [conditions_eq_empty_iff_groups]
    simp [Entry.comparisonsAll, Entry.comparisons]
  | .group inner conj :: rest => by
    have hinner := conditions_eq_empty_iff_comparisons d inner
    have hrest := conditions_eq_empty_iff_comparisons d rest
    rw [conditions_eq_empty_iff_groups, List.forall_mem_cons, ← conditions_eq_empty_iff_groups,
      hrest, Entry.comparisonsAll, Entry.comparisons, List.append_eq_nil_iff, ← hinner]
    refine and_congr_left' ⟨?_, fun hempty => ⟨inner, conj, rfl, hempty⟩⟩
    rintro ⟨inner', c, heq, hempty⟩
    obtain ⟨rfl, rfl⟩ := Entry.group.inj heq
    exact hempty

/-- **A condition list is written as exactly its entries that write something**: in order, one
space apart, the first bare even when entries before it wrote nothing, every later one after its
own joiner, a group as its entries' text in parentheses and only when that text is not empty. It
is written as nothing exactly when every entry is a group written as nothing, that is, when it
holds no comparison at any depth. -/
theorem conditions_write_nonempty_entries (d : Dialect) (es : List Entry) :
    d.conditions es = " ".intercalate (joinTexts (es.filterMap d.entryText)) ∧
    (d.conditions es = "" ↔
      ∀ e ∈ es, ∃ inner c, e = .group inner c ∧ d.conditions inner = "") ∧
    (d.conditions es = "" ↔ Entry.comparisonsAll es = []) :=
  ⟨conditions_eq_joinTexts d es, conditions_eq_empty_iff_groups d es,
    conditions_eq_empty_iff_comparisons d es⟩

example : mysql.conditions [.group [.group [] .or] .and, .compare (.sql "a") "=" (.sql "1") .or,
    .compare (.sql "b") "<" (.sql "2") .and] = "a = 1 AND b < 2" := by cbv

end Dialect

/-! ## The written list is its reading, written out -/

namespace Reading

mutual

/-- **The text of a read item**, with its joiner: a condition as `left op right`, a parenthesized
list as its items' text in parentheses. -/
def piece (d : Dialect) : Reading (Term × String × Term) → Conjunction × String
  | .cond (l, op, r) conj => (conj, d.term l ++ " " ++ op ++ " " ++ d.term r)
  | .paren items conj => (conj, parenthesize (" ".intercalate (joinTexts (pieces d items))))

/-- The texts of read items, with their joiners. -/
def pieces (d : Dialect) : List (Reading (Term × String × Term)) → List (Conjunction × String)
  | [] => []
  | r :: rest => piece d r :: pieces d rest

end

/-- **The text of a reading**: its items one space apart, the first bare and every later one
after its joiner. -/
def text (d : Dialect) (items : List (Reading (Term × String × Term))) : String :=
  " ".intercalate (joinTexts (pieces d items))

theorem pieces_eq_map (d : Dialect) :
    ∀ items : List (Reading (Term × String × Term)), pieces d items = items.map (piece d)
  | [] => rfl
  | r :: rest => by rw [pieces, pieces_eq_map d rest, List.map_cons]

theorem pieces_append (d : Dialect) (xs ys : List (Reading (Term × String × Term))) :
    pieces d (xs ++ ys) = pieces d xs ++ pieces d ys := by
  rw [pieces_eq_map, pieces_eq_map, pieces_eq_map, List.map_append]

end Reading

namespace Dialect

variable (d : Dialect)

/-- **Written entries are read as they are written**: the texts of the reading of a list of
entries are the texts the dialect writes for its entries, a group that reads as nothing being
written as nothing. -/
theorem pieces_readingAll :
    ∀ es : List Entry, Reading.pieces d (Entry.readingAll es) = es.filterMap d.entryText
  | [] => rfl
  | .compare l op r conj :: rest => by
    rw [Entry.readingAll, Reading.pieces_append, pieces_readingAll rest]
    rfl
  | .group inner conj :: rest => by
    have hgroup : Reading.pieces d (Entry.read (.group inner conj)) =
        (d.entryText (.group inner conj)).toList := by
      by_cases hempty : d.conditions inner = ""
      · have hnil : Entry.readingAll inner = [] := (conditions_eq_empty_iff d inner).mp hempty
        simp [Entry.read, hnil, entryText, hempty, Reading.pieces]
      · have hne : (Entry.readingAll inner).isEmpty = false := by
          simpa [conditions_eq_empty_iff] using hempty
        rw [Entry.read, entryText, if_neg hempty]
        simp only [hne, Bool.false_eq_true, ↓reduceIte]
        rw [Reading.pieces, Reading.piece, Reading.pieces, pieces_readingAll inner,
          ← conditions_eq_joinTexts]
        rfl
    rw [Entry.readingAll, Reading.pieces_append, hgroup, pieces_readingAll rest]
    cases h : d.entryText (.group inner conj) with
    | none => rw [List.filterMap_cons_none h]; rfl
    | some p => rw [List.filterMap_cons_some h]; rfl

/-- **An entry reads as nothing exactly when it is written as nothing.** -/
theorem read_eq_nil_iff (e : Entry) : Entry.read e = [] ↔ d.entryText e = none := by
  have h := pieces_readingAll d [e]
  rw [Entry.readingAll, Entry.readingAll, List.append_nil, Reading.pieces_eq_map] at h
  rw [← List.map_eq_nil_iff (f := Reading.piece d), h]
  cases he : d.entryText e <;> simp [he]

/-- **A condition list is written as the text of its reading**, so the reading of the entries is
that of the text written. -/
theorem conditions_eq_text_readingAll (es : List Entry) :
    d.conditions es = Reading.text d (Entry.readingAll es) := by
  rw [Reading.text, pieces_readingAll, conditions_eq_joinTexts]

/-- **A `WHERE` clause with entries** is `WHERE` and the text of the entries' reading. -/
theorem whereClause_eq_text_readingAll {c : Clause} (h : c.entries ≠ []) :
    d.whereClause c = "WHERE " ++ Reading.text d (Entry.readingAll c.entries) := by
  rw [whereClause_of_ne_nil d h, conditions_eq_text_readingAll]

end Dialect

end QueryKit.Sql
