import QueryKit.Model.Layout
import Mathlib.Data.List.Nodup

/-!
# Which field a column maps to

A model's fields and the fields its embedded records lend are *candidates* for the columns they
name. The layout visits them in one order — a record's own fields in declaration order, then
the candidates of each record it embeds, in declaration order, each visited the same way — and
keeps, for each column, the first candidate it meets. So a field of a record always wins over
the fields its embedded records lend, but across two embedded records the first one wins even
with a field nested deeper than the second one's.

* `ownFrom`, `Shape.candidates`: the candidates in the order the layout visits them;
* `firstOfEach seen cs`: the first candidate of each column not in `seen`, in order;
* `layout_eq`: the layout keeps exactly those, its fuel being enough;
* `columns_first_candidate_wins`: the columns of a model are its candidates' first of each
  column: one field per column, the first candidate of that column in the order above.
-/

namespace QueryKit.Model

/-! ## First of each column -/

/-- **The first candidate of each column**, in order, leaving out the columns in `seen`. -/
def firstOfEach (seen : List String) : List Column → List Column
  | [] => []
  | c :: cs =>
    if c.column ∈ seen then firstOfEach seen cs else c :: firstOfEach (seen ++ [c.column]) cs

theorem firstOfEach_append (seen : List String) (xs ys : List Column) :
    firstOfEach seen (xs ++ ys) =
      firstOfEach seen xs ++ firstOfEach (seen ++ (firstOfEach seen xs).map (·.column)) ys := by
  induction xs generalizing seen with
  | nil => simp [firstOfEach]
  | cons x xs ih =>
    simp only [List.cons_append, firstOfEach]
    split
    · exact ih seen
    · simp [ih]

/-- The first of each column is a subsequence of the candidates. -/
theorem firstOfEach_sublist (seen : List String) (xs : List Column) :
    (firstOfEach seen xs).Sublist xs := by
  induction xs generalizing seen with
  | nil => exact List.Sublist.refl _
  | cons x xs ih =>
    unfold firstOfEach
    split
    · exact List.Sublist.cons x (ih seen)
    · exact List.Sublist.cons_cons x (ih (seen ++ [x.column]))

/-- Nothing kept has a column already seen. -/
theorem firstOfEach_not_mem_seen (seen : List String) (xs : List Column) :
    ∀ c ∈ firstOfEach seen xs, c.column ∉ seen := by
  induction xs generalizing seen with
  | nil => simp [firstOfEach]
  | cons x xs ih =>
    intro c hc
    unfold firstOfEach at hc
    split at hc
    · exact ih seen c hc
    · rename_i hx
      rcases List.mem_cons.mp hc with rfl | hc
      · exact hx
      · exact fun hs => ih (seen ++ [x.column]) c hc (List.mem_append_left _ hs)

/-- **At most one candidate per column** is kept. -/
theorem firstOfEach_nodup (seen : List String) (xs : List Column) :
    ((firstOfEach seen xs).map (·.column)).Nodup := by
  induction xs generalizing seen with
  | nil => simp [firstOfEach]
  | cons x xs ih =>
    unfold firstOfEach
    split
    · exact ih seen
    · rw [List.map_cons, List.nodup_cons]
      refine ⟨fun hx => ?_, ih (seen ++ [x.column])⟩
      obtain ⟨c, hc, hcol⟩ := List.mem_map.mp hx
      exact firstOfEach_not_mem_seen _ xs c hc (by simp [hcol])

/-- **Every column of a candidate is kept**, unless it was seen before. -/
theorem firstOfEach_covers (seen : List String) (xs : List Column) :
    ∀ c ∈ xs, c.column ∈ seen ∨ ∃ c' ∈ firstOfEach seen xs, c'.column = c.column := by
  induction xs generalizing seen with
  | nil => simp
  | cons x xs ih =>
    intro c hc
    unfold firstOfEach
    split
    · rename_i hx
      rcases List.mem_cons.mp hc with rfl | hc
      · exact .inl hx
      · exact ih seen c hc
    · rcases List.mem_cons.mp hc with rfl | hc
      · exact .inr ⟨c, List.mem_cons_self .., rfl⟩
      · rcases ih (seen ++ [x.column]) c hc with hs | ⟨c', hc', hcol⟩
        · rcases List.mem_append.mp hs with hs | hs
          · exact .inl hs
          · exact .inr ⟨x, List.mem_cons_self .., (List.mem_singleton.mp hs).symm⟩
        · exact .inr ⟨c', List.mem_cons_of_mem _ hc', hcol⟩

/-- **A kept candidate is the first of its column**: no candidate before it names its column. -/
theorem firstOfEach_first (seen : List String) (xs : List Column) :
    ∀ c ∈ firstOfEach seen xs, ∃ pre post, xs = pre ++ c :: post ∧ ∀ x ∈ pre, x.column ≠ c.column := by
  induction xs generalizing seen with
  | nil => simp [firstOfEach]
  | cons x xs ih =>
    intro c hc
    unfold firstOfEach at hc
    split at hc
    · rename_i hx
      obtain ⟨pre, post, rfl, hpre⟩ := ih seen c hc
      refine ⟨x :: pre, post, rfl, fun y hy => ?_⟩
      rcases List.mem_cons.mp hy with rfl | hy
      · exact fun hcol => firstOfEach_not_mem_seen seen _ c hc (hcol ▸ hx)
      · exact hpre y hy
    · rcases List.mem_cons.mp hc with rfl | hc
      · exact ⟨[], xs, rfl, by simp⟩
      · obtain ⟨pre, post, rfl, hpre⟩ := ih (seen ++ [x.column]) c hc
        refine ⟨x :: pre, post, rfl, fun y hy => ?_⟩
        rcases List.mem_cons.mp hy with rfl | hy
        · exact fun hcol => firstOfEach_not_mem_seen _ _ c hc (by simp [hcol])
        · exact hpre y hy

/-! ## The order of the candidates -/

/-- **The own candidates** of the fields from position `i` on: the column of each field that lends
no record, unless the field is left out. -/
def ownFrom : List Slot → List Nat → Nat → List Column
  | [], _, _ => []
  | slot :: rest, pfx, i =>
    (if lends slot then none else columnOf slot pfx i).toList ++ ownFrom rest pfx (i + 1)

mutual

/-- **The candidates of a shape's fields**, in the order the layout visits them, references looked
through: a record's own candidates, then those its embedded records lend. -/
def candidates : Shape → List Nat → List Column
  | .ref t, pfx => candidates t pfx
  | .record _ ss, pfx => ownFrom ss pfx 0 ++ lentCandidates ss pfx 0
  | s, pfx => ownFrom s.slots pfx 0

/-- The candidates that the records of the fields from position `i` on lend. -/
def lentCandidates : List Slot → List Nat → Nat → List Column
  | [], _, _ => []
  | .mk n s t e :: rest, pfx, i =>
    (if lends (.mk n s t e) then candidates s (pfx ++ [i]) else []) ++ lentCandidates rest pfx (i + 1)

end

/-- The lent candidates are those of the lending fields, one field after another. -/
theorem lentCandidates_eq (pfx : List Nat) :
    ∀ (ss : List Slot) (n : Nat), lentCandidates ss pfx n =
      ((ss.zipIdx n).filter (fun p => lends p.1)).flatMap (fun p => candidates p.1.shape (pfx ++ [p.2]))
  | [], _ => rfl
  | .mk name s t e :: rest, n => by
    rw [lentCandidates, lentCandidates_eq pfx rest (n + 1), List.zipIdx_cons, List.filter_cons]
    split <;> simp_all [Slot.shape]

/-! ## Depths -/

theorem depth_indirect_le (s : Shape) : depth s.indirect ≤ depth s := by
  fun_induction Shape.indirect s with
  | case1 t ih =>
    simp only [depth]
    omega
  | case2 s hs => exact Nat.le_refl _

theorem depth_le_slotsDepth : ∀ {ss : List Slot} {slot : Slot}, slot ∈ ss → depth slot.shape ≤ slotsDepth ss
  | .mk _ s _ _ :: rest, slot, h => by
    rcases List.mem_cons.mp h with rfl | h
    · simp only [Slot.shape, slotsDepth]
      omega
    · have := depth_le_slotsDepth h
      simp only [slotsDepth]
      omega

/-- A field that lends its fields holds a record, perhaps behind references. -/
theorem lends_record {slot : Slot} (h : lends slot = true) :
    ∃ name ss, slot.shape.indirect = .record name ss := by
  unfold lends at h
  split at h
  · rename_i name ss hrec
    exact ⟨name, ss, hrec⟩
  · simp at h

/-- The candidates of a shape are those of the shape behind its references. -/
theorem candidates_indirect (s : Shape) (pfx : List Nat) : candidates s.indirect pfx = candidates s pfx := by
  fun_induction Shape.indirect s with
  | case1 t ih =>
    rw [ih, candidates]
  | case2 s hs => rfl

theorem candidates_of_indirect {s : Shape} {name : String} {ss : List Slot}
    (h : s.indirect = .record name ss) (pfx : List Nat) :
    candidates s pfx = ownFrom ss pfx 0 ++ lentCandidates ss pfx 0 := by
  rw [← candidates_indirect, h, candidates]

/-! ## The layout keeps the first of each column -/

/-- **The first pass of the layout**, over the fields from position `n` on: their own candidates
go to the first list, the first of each column not yet seen, and the lending fields to the
second. -/
theorem foldl_sort (pfx : List Nat)
    {f : List Column × List (Slot × Nat) × List String → Slot × Nat →
      List Column × List (Slot × Nat) × List String}
    (hf : ∀ own emb seen slot i, f (own, emb, seen) (slot, i) =
      if lends slot then (own, emb ++ [(slot, i)], seen)
      else (columnOf slot pfx i).elim (own, emb, seen) (fun c =>
        if seen.contains c.column then (own, emb, seen) else (own ++ [c], emb, seen ++ [c.column]))) :
    ∀ (slots : List Slot) (n : Nat) (own : List Column) (emb : List (Slot × Nat)) (seen : List String),
      (slots.zipIdx n).foldl f (own, emb, seen) =
        (own ++ firstOfEach seen (ownFrom slots pfx n), emb ++ (slots.zipIdx n).filter (fun p => lends p.1),
          seen ++ (firstOfEach seen (ownFrom slots pfx n)).map (·.column))
  | [], _, _, _, _ => by simp [ownFrom, firstOfEach]
  | slot :: rest, n, own, emb, seen => by
    rw [List.zipIdx_cons, List.foldl_cons, hf, List.filter_cons]
    by_cases hl : lends slot
    · simp [hl, ownFrom, foldl_sort pfx hf rest]
    · cases hc : columnOf slot pfx n with
      | none => simp [hl, hc, ownFrom, foldl_sort pfx hf rest]
      | some c =>
        by_cases hs : c.column ∈ seen
        · simp [hl, hc, hs, ownFrom, firstOfEach, foldl_sort pfx hf rest]
        · simp [hl, hc, hs, ownFrom, firstOfEach, foldl_sort pfx hf rest]

/-- **The second pass of the layout**: each lending field's record, laid out after the columns
seen so far, adds the first of each new column among its candidates. -/
theorem foldl_lend (fuel : Nat) (pfx : List Nat)
    {g : List Column × List String → Slot × Nat → List Column × List String}
    (hg : ∀ cols seen slot i, g (cols, seen) (slot, i) =
      (cols ++ (layout fuel slot.shape.indirect.slots (pfx ++ [i]) seen).1,
        (layout fuel slot.shape.indirect.slots (pfx ++ [i]) seen).2)) :
    ∀ (lent : List (Slot × Nat)),
      (∀ p ∈ lent, ∀ seen, layout fuel p.1.shape.indirect.slots (pfx ++ [p.2]) seen =
        (firstOfEach seen (candidates p.1.shape (pfx ++ [p.2])),
          seen ++ (firstOfEach seen (candidates p.1.shape (pfx ++ [p.2]))).map (·.column))) →
      ∀ cols seen, lent.foldl g (cols, seen) =
        (cols ++ firstOfEach seen (lent.flatMap (fun p => candidates p.1.shape (pfx ++ [p.2]))),
          seen ++ (firstOfEach seen (lent.flatMap (fun p => candidates p.1.shape (pfx ++ [p.2])))).map
            (·.column))
  | [], _, _, _ => by simp [firstOfEach]
  | ⟨slot, i⟩ :: rest, hlay, cols, seen => by
    rw [List.foldl_cons, hg, hlay (slot, i) (List.mem_cons_self ..) seen,
      foldl_lend fuel pfx hg rest (fun p hp => hlay p (List.mem_cons_of_mem _ hp)),
      List.flatMap_cons, firstOfEach_append]
    simp

/-- **Enough fuel** for laying out fields: some, and more than the depth of each field that lends
its record. -/
def Fueled (fuel : Nat) (ss : List Slot) : Prop :=
  0 < fuel ∧ ∀ slot ∈ ss, lends slot = true → depth slot.shape < fuel

/-- The record a field lends can be laid out with one unit of fuel less. -/
theorem Fueled.lent {fuel : Nat} {ss : List Slot} (h : Fueled (fuel + 1) ss) {slot : Slot}
    (hmem : slot ∈ ss) (hl : lends slot = true) {name : String} {inner : List Slot}
    (hrec : slot.shape.indirect = .record name inner) : Fueled fuel inner := by
  have hdepth : depth (.record name inner) ≤ depth slot.shape := hrec ▸ depth_indirect_le slot.shape
  have hlt := h.2 slot hmem hl
  simp only [depth] at hdepth
  refine ⟨by omega, fun s hs _ => ?_⟩
  have := depth_le_slotsDepth hs
  omega

/-- **The layout keeps the first candidate of each column**, in the order of the candidates, and
records their columns as seen: by induction on the fuel, every lending field's record being laid
out by the same rule with less. -/
theorem layout_eq : ∀ (fuel : Nat) (ss : List Slot) (pfx : List Nat) (seen : List String),
    Fueled fuel ss → layout fuel ss pfx seen =
      (firstOfEach seen (ownFrom ss pfx 0 ++ lentCandidates ss pfx 0),
        seen ++ (firstOfEach seen (ownFrom ss pfx 0 ++ lentCandidates ss pfx 0)).map (·.column))
  | 0, _, _, _, h => absurd h.1 (Nat.lt_irrefl 0)
  | fuel + 1, ss, pfx, seen, h => by
    rw [layout.eq_2, foldl_sort pfx (fun _ _ _ slot i => by dsimp only; cases columnOf slot pfx i <;> rfl)
      ss 0 [] [] seen]
    simp only [List.nil_append]
    have hlay : ∀ p ∈ (ss.zipIdx 0).filter (fun p => lends p.1), ∀ seen',
        layout fuel p.1.shape.indirect.slots (pfx ++ [p.2]) seen' =
          (firstOfEach seen' (candidates p.1.shape (pfx ++ [p.2])),
            seen' ++ (firstOfEach seen' (candidates p.1.shape (pfx ++ [p.2]))).map (·.column)) := by
      intro p hp seen'
      obtain ⟨hzip, hl⟩ := List.mem_filter.mp hp
      have hmem : p.1 ∈ ss := List.fst_mem_of_mem_zipIdx hzip
      obtain ⟨name, inner, hrec⟩ := lends_record (by simpa using hl)
      rw [hrec, candidates_of_indirect hrec]
      exact layout_eq fuel inner _ seen' (h.lent hmem (by simpa using hl) hrec)
    rw [foldl_lend fuel pfx (fun _ _ _ _ => rfl) _ hlay, lentCandidates_eq, firstOfEach_append]
    simp

/-! ## The columns of a model -/

/-- A record's fields, or a nullable kind's, are laid out with the fuel of its depth. -/
theorem fueled_depth {t : Shape} (h : t.isRecord = true) : Fueled (depth t) t.slots := by
  cases t
  case record name ss =>
    refine ⟨by simp [depth], fun slot hs _ => ?_⟩
    have := depth_le_slotsDepth (by simpa only [Shape.slots] using hs)
    simp only [depth]
    omega
  case nullText => exact ⟨by decide, by decide⟩
  case nullInt => exact ⟨by decide, by decide⟩
  all_goals simp [Shape.isRecord] at h

/-- The candidates of a model are those of the record behind its references; a nullable kind's
two fields lend nothing. -/
theorem candidates_of_record {s : Shape} (h : s.indirect.isRecord = true) (pfx : List Nat) :
    candidates s pfx = ownFrom s.indirect.slots pfx 0 ++ lentCandidates s.indirect.slots pfx 0 := by
  rw [← candidates_indirect]
  cases hi : s.indirect
  case record name ss => rfl
  case nullText => simp [candidates, Shape.slots, lentCandidates, lends, Slot.embedded]
  case nullInt => simp [candidates, Shape.slots, lentCandidates, lends, Slot.embedded]
  all_goals simp [hi, Shape.isRecord] at h

/-- **The columns of a model are the first candidate of each column.** -/
theorem columns_eq {s : Shape} (h : s.indirect.isRecord = true) :
    columns s = .ok (firstOfEach [] (candidates s [])) := by
  simp only [columns, h, ↓reduceIte, layout_eq _ _ _ _ (fueled_depth h), candidates_of_record h]

/-- **Each column maps to the first of its candidates.** The columns of a model are one field per
column, in the order of its candidates — the model's own fields in declaration order, then, record
by embedded record in declaration order, the candidates each lends, taken the same way — every
candidate's column among them, each the first candidate of its column in that order. -/
theorem columns_first_candidate_wins (s : Shape) (h : s.indirect.isRecord = true) :
    ∃ cols, columns s = .ok cols ∧ (cols.map (·.column)).Nodup ∧ cols.Sublist (candidates s []) ∧
      (∀ c ∈ candidates s [], ∃ c' ∈ cols, c'.column = c.column) ∧
      ∀ c ∈ cols, ∃ pre post, candidates s [] = pre ++ c :: post ∧ ∀ x ∈ pre, x.column ≠ c.column := by
  refine ⟨_, columns_eq h, firstOfEach_nodup [] _, firstOfEach_sublist [] _, fun c hc => ?_,
    firstOfEach_first [] _⟩
  simpa using firstOfEach_covers [] _ c hc

/-- **A record's own fields come first**: the first of each column among them lead its columns, so
a field of the record itself wins over every field an embedded record lends. -/
theorem columns_own_first (name : String) (ss : List Slot) :
    ∃ cols, columns (.record name ss) = .ok cols ∧ firstOfEach [] (ownFrom ss [] 0) <+: cols := by
  refine ⟨_, columns_eq rfl, ?_⟩
  rw [candidates, firstOfEach_append]
  exact List.prefix_append _ _

/-- The model embedding a record that embeds a record with a `Code` field, and then that inner
record itself: each column maps to the first of its candidates. -/
theorem nested_code_field_first :
    let inner : Shape := .record "main.Inner" [.mk "Code" .text none false]
    let model : Shape := .record "main.Model"
      [.mk "Mid" (.record "main.Mid" [.mk "Inner" inner none true]) none true, .mk "Inner" inner none true]
    model.indirect.isRecord = true ∧
      ∃ cols, columns model = .ok cols ∧ (cols.map (·.column)).Nodup ∧
        cols.Sublist (candidates model []) ∧
        (∀ c ∈ candidates model [], ∃ c' ∈ cols, c'.column = c.column) ∧
        ∀ c ∈ cols, ∃ pre post, candidates model [] = pre ++ c :: post ∧ ∀ x ∈ pre, x.column ≠ c.column :=
  ⟨rfl, columns_first_candidate_wins _ rfl⟩

/-- In that model the column `code` maps to the field two levels down, in the record embedded
first, though the record embedded second holds a `Code` field one level down. -/
theorem deeper_embedded_field_wins :
    let inner : Shape := .record "main.Inner" [.mk "Code" .text none false]
    let model : Shape := .record "main.Model"
      [.mk "Mid" (.record "main.Mid" [.mk "Inner" inner none true]) none true, .mk "Inner" inner none true]
    (columns model).toOption.map (fun cols => cols.map (fun c => (c.column, c.index))) =
        some [("code", [0, 0, 0])] ∧
      (candidates model []).map (fun c => (c.column, c.index)) = [("code", [0, 0, 0]), ("code", [1, 0])] := by
  decide +kernel

end QueryKit.Model
