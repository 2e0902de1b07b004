import QueryKit.Proofs.Marker.Clause

/-!
# Written statements carry the markers of their parts

A statement is written as segments joined by blanks. Most segments are keywords, quoted names
and numbers, read as no marker; the ones that carry markers are the joins (their `ON` lists), the
`WHERE` list, the assigned values of an update or a conflict clause, and the rows of an insert.
Each statement is read as the names of those segments in the order they are written:

* `Segments.ReadAs w ns` reads a writer segment by segment, kept by every way of appending;
* `reads_join`, `reads_whereClause`, `reads_assignments` and `reads_conflictClause` read the
  parts;
* `reads_select`, `reads_update`, `reads_delete` and `reads_insert` read the statements.
-/

namespace QueryKit.Sql

/-- A step of `Except` that gave a result came from a first step that gave one. -/
theorem exists_of_bind_eq_ok {ε α β : Type} {x : Except ε α} {f : α → Except ε β} {b : β}
    (h : (x >>= f) = .ok b) : ∃ a, x = .ok a ∧ f a = .ok b := by
  cases x with
  | error e => cases h
  | ok a => exact ⟨a, rfl, h⟩

/-- A mapped `Except` that gave a result came from one. -/
theorem exists_of_map_eq_ok {ε α β : Type} {f : α → β} {x : Except ε α} {b : β}
    (h : x.map f = .ok b) : ∃ a, x = .ok a ∧ f a = b := by
  cases x with
  | error e => cases h
  | ok a =>
    cases h
    exact ⟨a, rfl, rfl⟩

/-- A mapped `Except` fails exactly where it did. -/
theorem map_eq_error_iff {ε α β : Type} {f : α → β} {x : Except ε α} {e : ε} :
    x.map f = .error e ↔ x = .error e := by
  cases x <;> simp [Except.map]

/-- Pieces each read as nothing are read as nothing. -/
theorem readsEach_silent : ∀ {xs : List (List Char)}, (∀ x ∈ xs, Reads x [] isBreak) →
    ReadsEach xs []
  | [], _ => .nil
  | x :: xs, h => by
    simpa using ReadsEach.cons (h x (List.mem_cons_self ..))
      (readsEach_silent (fun y hy => h y (List.mem_cons_of_mem _ hy)))

theorem reads_plainString {s : String} (h : ∀ c ∈ s.toList, isPlain c = true) :
    Reads s.toList [] isBreak :=
  (reads_plainText h).mono (fun _ _ => rfl)

theorem plain_append {a b : String} (ha : ∀ c ∈ a.toList, isPlain c = true)
    (hb : ∀ c ∈ b.toList, isPlain c = true) : ∀ c ∈ (a ++ b).toList, isPlain c = true := by
  intro c hc
  rw [String.toList_append] at hc
  rcases List.mem_append.mp hc with hc | hc
  · exact ha c hc
  · exact hb c hc

/-- Words of plain characters are read as nothing. -/
theorem quiet_of_plain {ws : List String} (h : ∀ w ∈ ws, ∀ c ∈ w.toList, isPlain c = true) :
    ∀ w ∈ ws, Reads w.toList [] isBreak :=
  fun w hw => reads_plainString (h w hw)

/-- Plain text that starts with a break may follow any reading. -/
theorem Reads.then_plain {a : List Char} {ns : List String} {b : String} (ha : Reads a ns isBreak)
    (hb : ∀ c ∈ b.toList, isPlain c = true) (hstart : Follows isBreak b.toList) :
    Reads (a ++ b.toList) ns isBreak := by
  have hall := ha.append (reads_plainString hb) (fun rest hrest => by
    cases hcs : b.toList with
    | nil => simpa using hrest
    | cons c cs => simpa [hcs, Follows] using hstart)
  simpa using hall

/-- **A lead that starts with a blank** joins two readings. -/
theorem Reads.then_lead {a : List Char} {ns ms : List String} {lead b : String}
    (ha : Reads a ns isBreak) (hlead : ∀ x ∈ lead.toList, isPlain x = true)
    (hstart : lead.toList.head? = some ' ') (hb : Reads b.toList ms isBreak) :
    Reads (a ++ (lead ++ b).toList) (ns ++ ms) isBreak := by
  obtain ⟨t, ht⟩ : ∃ t, lead.toList = ' ' :: t := by
    cases hl : lead.toList with
    | nil => simp [hl] at hstart
    | cons c t => exact ⟨t, by simpa [hl] using hstart⟩
  have hafter : Reads (lead ++ b).toList ms isBreak := by
    simpa using Reads.after_plain hlead hb
  refine ha.append hafter (fun rest _ => ?_)
  rw [String.toList_append, ht]
  exact rfl

/-! ## Segments -/

namespace Segments

/-- **A writer read as names**, segment by segment. -/
def ReadAs (w : Segments) (ns : List String) : Prop := ReadsEach (w.parts.map String.toList) ns

variable {w : Segments} {ns : List String}

theorem ReadAs.append {segs : List String} {ms : List String} (hw : w.ReadAs ns)
    (hs : ReadsEach (segs.map String.toList) ms) : (w.append segs).ReadAs (ns ++ ms) := by
  simpa [ReadAs, Segments.append] using ReadsEach.append hw (ReadsEach.filter_nonempty hs)

theorem ReadAs.append_one {x : String} {ms : List String} (hw : w.ReadAs ns)
    (hx : Reads x.toList ms isBreak) : (w.append [x]).ReadAs (ns ++ ms) := by
  have hseg : ReadsEach ([x].map String.toList) (ms ++ []) := ReadsEach.cons hx .nil
  simpa using hw.append hseg

/-- Segments read as nothing leave the reading as it is. -/
theorem ReadAs.append_quiet {segs : List String} (hw : w.ReadAs ns)
    (hs : ∀ x ∈ segs, Reads x.toList [] isBreak) : (w.append segs).ReadAs ns := by
  simpa using hw.append (readsEach_silent (by simpa using hs))

theorem readAs_ofList {segs : List String} {ms : List String}
    (hs : ReadsEach (segs.map String.toList) ms) : (ofList segs).ReadAs ms := by
  simpa [ofList] using ReadAs.append (w := {}) ReadsEach.nil hs

theorem ReadAs.appendIf_quiet {cond : Bool} {segs : List String} (hw : w.ReadAs ns)
    (hs : ∀ x ∈ segs, Reads x.toList [] isBreak) : (w.appendIf cond segs).ReadAs ns := by
  unfold appendIf
  split
  · exact hw.append_quiet hs
  · exact hw

/-- A body after a plain prefix is read as the body; an empty body is not written and carries
no names. -/
theorem ReadAs.appendPrefixed {lead body : String} {ms : List String} (hw : w.ReadAs ns)
    (hlead : ∀ x ∈ lead.toList, isPlain x = true) (hbody : Reads body.toList ms isBreak) :
    (w.appendPrefixed lead body).ReadAs (ns ++ ms) := by
  unfold Segments.appendPrefixed
  split
  · rename_i hempty
    have hnil : ms = [] := Reads.names_nil (by simpa [String.isEmpty_iff.mp hempty] using hbody)
    simpa [hnil] using hw
  · exact hw.append_one (by simpa using Reads.after_plain hlead hbody)

/-- A list of items read as nothing, after a plain prefix, is read as nothing. -/
theorem ReadAs.appendList_quiet {lead : String} {items : List String} (hw : w.ReadAs ns)
    (hlead : ∀ x ∈ lead.toList, isPlain x = true)
    (hitems : ∀ x ∈ items, Reads x.toList [] isBreak) :
    (w.appendList lead items ", ").ReadAs ns := by
  unfold appendList
  split
  · exact hw
  · have hbody : Reads (", ".intercalate items).toList [] isBreak := by
      simpa using Reads.intercalate (c := ',') (t := [' ']) rfl (by decide) (by decide)
        (readsEach_silent (by simpa using hitems))
    simpa using hw.appendPrefixed hlead hbody

/-- **The written text** is read as the segments' names. -/
theorem ReadAs.text (h : w.ReadAs ns) : Reads w.text.toList ns isBreak := by
  simpa [Segments.text] using Reads.intercalate (c := ' ') (t := []) rfl (by decide) (by decide) h

end Segments

/-! ## Parts of statements -/

/-- **A term written without markers**: a name, or raw SQL of plain characters. -/
def Term.quiet (t : Term) : Bool := !t.raw || t.text.toList.all isPlain

section

variable {d : Dialect}

theorem reads_term_quiet (hq : isQuoteChar d.quote = true) {t : Term} (ht : t.quiet = true) :
    Reads (d.term t).toList [] isBreak := by
  cases hraw : t.raw
  · exact reads_term_name hq hraw
  · have hplain : ∀ c ∈ t.text.toList, isPlain c = true := by
      simpa [Term.quiet, hraw] using ht
    simpa [Dialect.term, hraw] using reads_plainString hplain

/-- Terms are read in order. -/
theorem reads_terms {ts : List Term} {ns : List String}
    (h : ReadsEach (ts.map (fun t => (d.term t).toList)) ns) :
    Reads (d.terms ts).toList ns isBreak := by
  simpa [Dialect.terms, Function.comp_def] using
    Reads.intercalate (c := ',') (t := [' ']) rfl (by decide) (by decide) h

theorem reads_terms_quiet (hq : isQuoteChar d.quote = true) {ts : List Term}
    (h : ∀ t ∈ ts, t.quiet = true) : Reads (d.terms ts).toList [] isBreak :=
  reads_terms (readsEach_silent (by simpa using fun t ht => reads_term_quiet hq (h t ht)))

/-- **Assignments** are read as their values, in order. -/
theorem reads_assignments {sets : List Assignment} {ns : List String}
    (h : ReadsEach (sets.map (fun a => (d.term a.column ++ " = " ++ d.term a.value).toList)) ns) :
    Reads (d.assignments sets).toList ns isBreak := by
  simpa [Dialect.assignments, Function.comp_def] using
    Reads.intercalate (c := ',') (t := [' ']) rfl (by decide) (by decide) h

theorem reads_assignment (hq : isQuoteChar d.quote = true) {a : Assignment} {ns : List String}
    (hc : a.column.quiet = true) (hv : Reads (d.term a.value).toList ns isBreak) :
    Reads (d.term a.column ++ " = " ++ d.term a.value).toList ns isBreak := by
  have hop : ∀ x ∈ "=".toList, isPlain x = true := by decide
  simpa [String.append_assoc] using reads_comparison d (reads_term_quiet hq hc) hop hv

/-- **A join** is read as its `ON` list. -/
theorem reads_join (hq : isQuoteChar d.quote = true) {j : Join} {ns : List String}
    (hk : ∀ x ∈ j.kind.toList, isPlain x = true) (ht : j.table.quiet = true)
    (hon : EntriesRead d j.on.entries ns) : Reads (d.join j).toList ns isBreak := by
  have hkind : ∀ x ∈ ((if j.kind.isEmpty then "INNER" else j.kind) ++ " JOIN").toList,
      isPlain x = true := by
    have hinner : ∀ x ∈ "INNER".toList, isPlain x = true := by decide
    have hjoin : ∀ x ∈ " JOIN".toList, isPlain x = true := by decide
    intro x hx
    rcases List.mem_append.mp (by simpa only [String.toList_append] using hx) with hx | hx
    · split at hx
      · exact hinner x hx
      · exact hk x hx
    · exact hjoin x hx
  have hhead : (Segments.ofList [(if j.kind.isEmpty then "INNER" else j.kind) ++ " JOIN",
      d.term j.table]).ReadAs [] := by
    refine Segments.readAs_ofList (readsEach_silent ?_)
    simp only [List.map_cons, List.map_nil, List.mem_cons, List.not_mem_nil, or_false]
    rintro x (rfl | rfl)
    · exact reads_plainString hkind
    · exact reads_term_quiet hq ht
  simpa [Dialect.join] using (hhead.appendPrefixed (by decide) hon.conditions).text

/-- **A `WHERE` clause** is read as its list. -/
theorem reads_whereClause {c : Clause} {ns : List String} (h : EntriesRead d c.entries ns) :
    Reads (d.whereClause c).toList ns isBreak := by
  unfold Dialect.whereClause
  split
  · rename_i hempty
    rw [List.isEmpty_iff.mp hempty] at h
    rw [h.names_nil]
    exact Reads.nil _
  · simpa using Reads.after_plain (p := "WHERE ".toList) (by decide) h.conditions

/-- A term after a plain prefix is read as nothing. -/
theorem reads_prefixed_quiet (hq : isQuoteChar d.quote = true) {lead : String} {t : Term}
    (hlead : ∀ x ∈ lead.toList, isPlain x = true) (ht : t.quiet = true) :
    Reads (lead ++ d.term t).toList [] isBreak := by
  simpa using Reads.after_plain hlead (reads_term_quiet hq ht)

/-! ## Statements -/

/-- **A select** is read as its joins' lists, then its `WHERE` list: `SELECT`, `DISTINCT`, the
selection, the table, the ordering and the paging are read as nothing. -/
theorem reads_select (hq : isQuoteChar d.quote = true)
    (hoff : ∀ x ∈ d.offsetLimit.toList, isPlain x = true) {s : Select} {nj nw : List String}
    {q : String} (hcols : ∀ t ∈ s.columns, t.quiet = true) (htable : ∀ t ∈ s.table, t.quiet = true)
    (hjoins : ReadsEach (s.joins.map (fun j => (d.join j).toList)) nj)
    (hwhere : EntriesRead d s.conditions.entries nw)
    (horder : ∀ o ∈ s.orderBy, o.column.quiet = true ∧ ∀ x ∈ o.direction.toList, isPlain x = true)
    (hsel : d.select s = .ok q) : Reads q.toList (nj ++ nw) isBreak := by
  have hnumber : ∀ (lead : String) (n : Int), (∀ x ∈ lead.toList, isPlain x = true) →
      ∀ x ∈ [lead ++ toString n], Reads x.toList [] isBreak := by
    intro lead n hlead x hx
    rw [List.mem_singleton.mp hx]
    exact reads_plainString (plain_append hlead (plain_intToString n))
  unfold Dialect.select at hsel
  extract_lets w₀ w₁ tail at hsel
  have h₁ : w₁.ReadAs [] := by
    have hselect : ReadsEach (["SELECT"].map String.toList) [] :=
      readsEach_silent (by simpa using reads_plainString (s := "SELECT") (by decide))
    have h₀ : w₀.ReadAs [] :=
      (Segments.readAs_ofList hselect).appendIf_quiet (quiet_of_plain (by decide))
    refine h₀.append_quiet ?_
    simp only [List.mem_singleton, forall_eq]
    split
    · exact reads_plainString (by decide)
    · exact reads_terms_quiet hq hcols
  have key : ∀ w : Segments, w.ReadAs [] → tail w = .ok q → Reads q.toList (nj ++ nw) isBreak := by
    intro w hw h
    dsimp -zeta only [tail] at h
    extract_lets w₂ w₃ w₄ w₅ w₆ at h
    cases h
    apply Segments.ReadAs.text
    have h₂ : w₂.ReadAs nj := hw.append (by simpa [Function.comp_def] using hjoins)
    have h₃ : w₃.ReadAs (nj ++ nw) := h₂.append_one (reads_whereClause hwhere)
    have h₄ : w₄.ReadAs (nj ++ nw) := by
      refine h₃.appendList_quiet (by decide) ?_
      simp only [List.mem_map]
      rintro _ ⟨o, ho, rfl⟩
      have hdir : ∀ x ∈ (if o.direction.isEmpty then "ASC" else o.direction).toList,
          isPlain x = true := by
        split
        · decide
        · exact (horder o ho).2
      simpa using (reads_term_quiet hq (horder o ho).1).spaced (reads_plainString hdir)
    have h₅ : w₅.ReadAs (nj ++ nw) := by
      simp only [w₅]
      split
      · exact h₄.append_quiet (hnumber "LIMIT " _ (by decide))
      · split
        · exact h₄
        · have hlimit : ∀ x ∈ ("LIMIT " ++ d.offsetLimit).toList, isPlain x = true :=
            plain_append (by decide) hoff
          exact h₄.append_quiet (quiet_of_plain (by simpa using hlimit))
      · exact h₄
    simp only [w₆]
    split
    · exact h₅.append_quiet (hnumber "OFFSET " _ (by decide))
    · exact h₅
  split at hsel
  · exact key w₁ h₁ hsel
  · rename_i t htab
    split at hsel
    · cases hsel
    · have hfrom : Reads ("FROM " ++ d.term t).toList [] isBreak :=
        reads_prefixed_quiet hq (by decide) (htable t htab)
      exact key _ (h₁.append_quiet (by simpa using hfrom)) hsel

/-- **An update** is read as its assigned values, then its joins' lists, then its `WHERE`
list. -/
theorem reads_update (hq : isQuoteChar d.quote = true) {u : Update} {na nj nw : List String}
    {q : String} (htable : u.table.quiet = true)
    (hsets : ReadsEach (u.sets.map (fun a => (d.term a.column ++ " = " ++ d.term a.value).toList)) na)
    (hjoins : ReadsEach (u.joins.map (fun j => (d.join j).toList)) nj)
    (hwhere : EntriesRead d u.conditions.entries nw)
    (hupd : d.update u = .ok q) : Reads q.toList (na ++ nj ++ nw) isBreak := by
  unfold Dialect.update at hupd
  obtain ⟨_, -, hupd⟩ := exists_of_bind_eq_ok hupd
  extract_lets w₁ w₂ finish afterTable at hupd
  split at hupd
  · cases hupd
  dsimp only [afterTable] at hupd
  split at hupd
  · cases hupd
  dsimp only [finish] at hupd
  cases hupd
  apply Segments.ReadAs.text
  have hset : Reads ("SET " ++ d.assignments u.sets).toList na isBreak := by
    have hlead : ∀ x ∈ "SET ".toList, isPlain x = true := by decide
    simpa using Reads.after_plain hlead (reads_assignments hsets)
  have hhead : ReadsEach (["UPDATE", d.term u.table, "SET " ++ d.assignments u.sets].map
      String.toList) ([] ++ ([] ++ (na ++ []))) :=
    .cons (reads_plainString (s := "UPDATE") (by decide))
      (.cons (reads_term_quiet hq htable) (.cons hset .nil))
  have h₁ : w₁.ReadAs na := by simpa using Segments.readAs_ofList hhead
  have h₂ : w₂.ReadAs (na ++ nj) := h₁.append (by simpa [Function.comp_def] using hjoins)
  exact h₂.append_one (reads_whereClause hwhere)

/-- **A delete** is read as its joins' lists, then its `WHERE` list. -/
theorem reads_delete (hq : isQuoteChar d.quote = true) {x : Delete} {nj nw : List String}
    {q : String} (htable : x.table.quiet = true)
    (hjoins : ReadsEach (x.joins.map (fun j => (d.join j).toList)) nj)
    (hwhere : EntriesRead d x.conditions.entries nw)
    (hdel : d.delete x = .ok q) : Reads q.toList (nj ++ nw) isBreak := by
  unfold Dialect.delete at hdel
  obtain ⟨_, -, hdel⟩ := exists_of_bind_eq_ok hdel
  extract_lets w₁ w₂ finish at hdel
  split at hdel
  · cases hdel
  dsimp only [finish] at hdel
  cases hdel
  apply Segments.ReadAs.text
  have hhead : ReadsEach (["DELETE FROM", d.term x.table].map String.toList) ([] ++ ([] ++ [])) :=
    .cons (reads_plainString (s := "DELETE FROM") (by decide)) (.cons (reads_term_quiet hq htable) .nil)
  have h₁ : w₁.ReadAs [] := Segments.readAs_ofList hhead
  have h₂ : w₂.ReadAs nj := h₁.append (by simpa [Function.comp_def] using hjoins)
  exact h₂.append_one (reads_whereClause hwhere)

theorem reads_selfAssign (hq : isQuoteChar d.quote = true) {t : Term} (ht : t.quiet = true) :
    Reads (d.term t ++ " = " ++ d.term t).toList [] isBreak :=
  reads_assignment (a := ⟨t, t⟩) hq ht (reads_term_quiet hq ht)

/-- **A conflict clause** is read as its assignments' values; assignments that are not written
carry no names. With nothing to assign, `ON DUPLICATE KEY UPDATE` assigns the first target, else
the first column, to itself, and `ON CONFLICT` does nothing. -/
theorem reads_conflictClause (hq : isQuoteChar d.quote = true) {c : OnConflict}
    {columns : List Term} {ns : List String} {tail : String}
    (htargets : ∀ t ∈ c.targets, t.quiet = true) (hcols : ∀ t ∈ columns, t.quiet = true)
    (hsets : ReadsEach (c.sets.map (fun a => (d.term a.column ++ " = " ++ d.term a.value).toList)) ns)
    (hnothing : c.action = .doNothing → ns = [])
    (h : d.conflictClause c columns = .ok tail) : Reads tail.toList ns isBreak := by
  have hskip : (c.action == .doNothing || c.sets.isEmpty) = true → ns = [] := by
    intro hs
    rcases Bool.or_eq_true_iff.mp hs with ha | hs
    · cases hact : c.action
      · exact hnothing hact
      · rw [hact] at ha
        cases ha
    · rw [List.isEmpty_iff.mp hs] at hsets
      cases hsets
      rfl
  have hhead : Reads ("ON CONFLICT" ++ (if c.targets.isEmpty then "" else
      " (" ++ d.terms c.targets ++ ")")).toList [] isBreak := by
    have hon : Reads "ON CONFLICT".toList [] isBreak := reads_plainString (by decide)
    split
    · simpa using hon
    · have hinner : Reads (" (" ++ d.terms c.targets).toList [] isBreak := by
        simpa using Reads.after_plain (p := " (".toList) (by decide) (reads_terms_quiet hq htargets)
      have hclose := hinner.then_plain (b := ")") (by decide) (show isBreak ')' = true by decide)
      simpa [String.append_assoc] using Reads.after_plain (p := "ON CONFLICT".toList) (by decide)
        hclose
  unfold Dialect.conflictClause at h
  split at h
  · have hlead : ∀ x ∈ "ON DUPLICATE KEY UPDATE ".toList, isPlain x = true := by decide
    split at h
    · rename_i hs
      cases h
      rw [hskip hs]
      have hself : ∀ t : Term, t.quiet = true →
          Reads ("ON DUPLICATE KEY UPDATE " ++ d.term t ++ " = " ++ d.term t).toList [] isBreak := by
        intro t ht
        simpa [String.append_assoc] using Reads.after_plain hlead (reads_selfAssign hq ht)
      split
      · exact hself _ (htargets _ (List.mem_of_mem_head? ‹_›))
      · exact hself _ (hcols _ (List.mem_of_mem_head? ‹_›))
      · exact hself _ rfl
    · cases h
      simpa using Reads.after_plain hlead (reads_assignments hsets)
  · by_cases hs : (c.action == .doNothing || c.sets.isEmpty) = true
    · rw [if_pos hs] at h
      cases h
      rw [hskip hs, String.toList_append]
      exact hhead.then_plain (by decide) (show isBreak ' ' = true by decide)
    · rw [if_neg hs] at h
      split at h
      · cases h
      · rename_i htargets_ne
        cases h
        rw [if_neg htargets_ne] at hhead
        have hall := hhead.then_lead (show ∀ x ∈ " DO UPDATE SET ".toList, isPlain x = true by
          decide) rfl (reads_assignments hsets)
        rw [String.append_assoc, String.toList_append]
        simpa using hall

/-- **An insert** is read as its rows, then its conflict clause: `INSERT INTO`, the table, the
columns, `VALUES` and the returned columns are read as nothing. -/
theorem reads_insert (hq : isQuoteChar d.quote = true) {i : Insert} {nr nc : List String}
    {q : String} (htable : i.table.quiet = true) (hcols : ∀ t ∈ i.columns, t.quiet = true)
    (hreturning : ∀ t ∈ i.returning, t.quiet = true)
    (hrows : ReadsEach (i.rows.map (fun r => (parenthesize (d.terms r)).toList)) nr)
    (hconflict : ∀ c ∈ i.conflict, (∀ t ∈ c.targets, t.quiet = true) ∧
      ReadsEach (c.sets.map (fun a => (d.term a.column ++ " = " ++ d.term a.value).toList)) nc ∧
      (c.action = .doNothing → nc = []))
    (hnone : i.conflict = none → nc = [])
    (hins : d.insert i = .ok q) : Reads q.toList (nr ++ nc) isBreak := by
  unfold Dialect.insert at hins
  obtain ⟨_, -, hins⟩ := exists_of_bind_eq_ok hins
  extract_lets rows w₁ finish afterCheck at hins
  split at hins
  · cases hins
  dsimp only [afterCheck] at hins
  have hrowsText : Reads rows.toList nr isBreak := by
    simpa [rows, Function.comp_def] using
      Reads.intercalate (c := ',') (t := [' ']) rfl (by decide) (by decide) hrows
  have hcolumns : Reads (parenthesize (d.terms i.columns)).toList [] isBreak :=
    reads_parenthesize (reads_terms_quiet hq hcols)
  have hhead : ReadsEach (["INSERT INTO", d.term i.table, parenthesize (d.terms i.columns),
      "VALUES", rows].map String.toList) ([] ++ ([] ++ ([] ++ ([] ++ (nr ++ []))))) :=
    .cons (reads_plainString (s := "INSERT INTO") (by decide)) (.cons (reads_term_quiet hq htable)
      (.cons hcolumns (.cons (reads_plainString (s := "VALUES") (by decide))
        (.cons hrowsText .nil))))
  have h₁ : w₁.ReadAs nr := by simpa using Segments.readAs_ofList hhead
  have hfinish : ∀ w : Segments, w.ReadAs (nr ++ nc) → finish w = .ok q →
      Reads q.toList (nr ++ nc) isBreak := by
    intro w hw h
    dsimp only [finish] at h
    cases h
    apply Segments.ReadAs.text
    split
    · exact hw
    · refine hw.append_quiet ?_
      simpa using Reads.after_plain (p := "RETURNING ".toList) (by decide)
        (reads_terms_quiet hq hreturning)
  split at hins
  · rename_i hc
    exact hfinish w₁ (by simpa [hnone hc] using h₁) hins
  · rename_i c hc
    obtain ⟨tail, htail, hins⟩ := exists_of_bind_eq_ok hins
    obtain ⟨htargets, hsets, hnothing⟩ := hconflict c hc
    exact hfinish _ (h₁.append_one (reads_conflictClause hq htargets hcols hsets hnothing htail)) hins

end

end QueryKit.Sql
