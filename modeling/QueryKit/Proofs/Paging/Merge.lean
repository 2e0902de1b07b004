import QueryKit.Proofs.Paging.Machine
import Mathlib.Algebra.Group.Defs

/-!
# Merging page windows

Two windows shown together merge field by field: totals and page sizes add up in machine
arithmetic, the first row is the smaller of the two known first rows (a zero first row is an
empty page's, and knows nothing), and the other bounds are the widest of the two. A merged window
whose first row would come after its last is clamped to start where it ends.

* `Window.Ordered w`: the first row of `w` does not come after its last. Every window that
  `calculate`, `empty` and `merge` give is ordered, the last by the clamp;
* on ordered windows the clamp never fires (`merge_first_of_ordered`): the smaller known first
  row comes before the larger last row;
* so merging is commutative (`merge_comm`, on any windows) and associative on ordered ones
  (`merge_assoc`): the sums wrap once whichever way they are grouped, and the smaller-known,
  larger and missing-aware bounds are each associative;
* `OrderedWindow`, the ordered windows, is a commutative semigroup under merging.
-/

namespace QueryKit.Paging

/-! ## Machine sums -/

theorem wrap_wrap_add (a b : Int) : wrap (wrap a + b) = wrap (a + b) := by
  simp only [wrap_eq]
  omega

theorem wrap_add_wrap (a b : Int) : wrap (a + wrap b) = wrap (a + b) := by
  simp only [wrap_eq]
  omega

/-- Machine sums are associative: each grouping wraps the exact sum once. -/
theorem wrap_add_assoc (a b c : Int) : wrap (wrap (a + b) + c) = wrap (a + wrap (b + c)) := by
  rw [wrap_wrap_add, wrap_add_wrap, Int.add_assoc]

namespace Window

/-! ## The bounds of a merge -/

theorem lowerKnown_comm (a b : Int) : lowerKnown a b = lowerKnown b a := by
  unfold lowerKnown
  simp only [beq_iff_eq]
  split_ifs <;> omega

@[simp] theorem lowerKnown_zero_left (a : Int) : lowerKnown 0 a = a := rfl

@[simp] theorem lowerKnown_zero_right (a : Int) : lowerKnown a 0 = a := by
  unfold lowerKnown
  simp only [beq_iff_eq]
  split_ifs <;> omega

/-- The smaller of two known rows is known: it is zero only when both are. -/
theorem lowerKnown_eq_zero {a b : Int} : lowerKnown a b = 0 ↔ a = 0 ∧ b = 0 := by
  unfold lowerKnown
  simp only [beq_iff_eq]
  split_ifs <;> omega

/-- Taking the smaller known row is associative; where two rows are both unknown, either side is
the third. -/
theorem lowerKnown_assoc (a b c : Int) :
    lowerKnown (lowerKnown a b) c = lowerKnown a (lowerKnown b c) := by
  by_cases hab : lowerKnown a b = 0
  · obtain ⟨rfl, rfl⟩ := lowerKnown_eq_zero.mp hab
    simp
  · by_cases hbc : lowerKnown b c = 0
    · obtain ⟨rfl, rfl⟩ := lowerKnown_eq_zero.mp hbc
      simp
    · unfold lowerKnown at hab hbc ⊢
      simp only [beq_iff_eq] at hab hbc ⊢
      split_ifs at hab hbc ⊢ <;> omega

/-- Between ordered bounds, the smaller known first row comes before the larger last row. -/
theorem lowerKnown_le_max {a b x y : Int} (ha : a ≤ x) (hb : b ≤ y) :
    lowerKnown a b ≤ max x y := by
  unfold lowerKnown
  simp only [beq_iff_eq]
  split_ifs <;> omega

theorem lowerPage_comm (a b : Option Int) : lowerPage a b = lowerPage b a := by
  cases a <;> cases b <;> simp [lowerPage, Int.min_comm]

theorem lowerPage_assoc (a b c : Option Int) :
    lowerPage (lowerPage a b) c = lowerPage a (lowerPage b c) := by
  cases a <;> cases b <;> cases c <;> simp [lowerPage, Int.min_assoc]

theorem upperPage_comm (a b : Option Int) : upperPage a b = upperPage b a := by
  cases a <;> cases b <;> simp [upperPage, Int.max_comm]

theorem upperPage_assoc (a b c : Option Int) :
    upperPage (upperPage a b) c = upperPage a (upperPage b c) := by
  cases a <;> cases b <;> cases c <;> simp [upperPage, Int.max_assoc]

/-! ## Ordered windows -/

/-- **Ordered windows**: the first row shown does not come after the last. -/
def Ordered (w : Window) : Prop := w.first ≤ w.last

instance (w : Window) : Decidable w.Ordered := inferInstanceAs (Decidable (w.first ≤ w.last))

theorem empty_ordered (perPage : Int) : (empty perPage).Ordered := by
  simp [Ordered, empty]

/-- Every window of a page is ordered: a page past the end is clamped to start where it ends. -/
theorem calculate_ordered {total perPage page : Int} {w : Window}
    (h : calculate total perPage page = .ok w) : w.Ordered := by
  unfold calculate at h
  cases hc : checkPage page perPage with
  | error f =>
    rw [hc] at h
    cases h
  | ok u =>
    simp only [hc] at h
    split at h
    · cases h
    · split at h
      · cases h
        exact empty_ordered perPage
      · cases h
        simp only [Ordered]
        split_ifs <;> omega

/-- **A merged window is ordered**, whatever windows are merged: the clamp sees to it. -/
theorem merge_ordered (a b : Window) : (merge a b).Ordered := by
  simp only [Ordered, merge]
  split_ifs <;> omega

/-- **On ordered windows the clamp never fires**: the merged first row is the smaller known one. -/
theorem merge_first_of_ordered {a b : Window} (ha : a.Ordered) (hb : b.Ordered) :
    (merge a b).first = lowerKnown a.first b.first := by
  have hle : lowerKnown a.first b.first ≤ max a.last b.last := lowerKnown_le_max ha hb
  simp only [merge]
  rw [if_neg (Int.not_lt.mpr hle)]

@[simp] theorem merge_total (a b : Window) : (merge a b).total = wrap (a.total + b.total) := rfl

@[simp] theorem merge_perPage (a b : Window) :
    (merge a b).perPage = wrap (a.perPage + b.perPage) := rfl

@[simp] theorem merge_last (a b : Window) : (merge a b).last = max a.last b.last := rfl

/-! ## Commutativity and associativity -/

/-- **Merging is commutative**, on any windows. -/
theorem merge_comm (a b : Window) : merge a b = merge b a := by
  simp only [merge, Window.mk.injEq]
  refine ⟨by rw [Int.add_comm], by rw [Int.add_comm], ?_, Int.max_comm _ _, trivial,
    Int.max_comm _ _, Int.max_comm _ _, lowerPage_comm _ _, upperPage_comm _ _⟩
  rw [lowerKnown_comm, Int.max_comm]

/-- **Merging ordered windows is associative.** Every merged bound is associative, and the clamp,
the one step that is not, never fires on ordered windows. -/
theorem merge_assoc {a b c : Window} (ha : a.Ordered) (hb : b.Ordered) (hc : c.Ordered) :
    merge (merge a b) c = merge a (merge b c) := by
  have hfirst : (merge (merge a b) c).first = (merge a (merge b c)).first := by
    rw [merge_first_of_ordered (merge_ordered a b) hc, merge_first_of_ordered ha (merge_ordered b c),
      merge_first_of_ordered ha hb, merge_first_of_ordered hb hc, lowerKnown_assoc]
  have hrest : merge (merge a b) c = { merge a (merge b c) with first := (merge (merge a b) c).first } := by
    simp only [merge, Window.mk.injEq]
    exact ⟨wrap_add_assoc _ _ _, wrap_add_assoc _ _ _, trivial, Int.max_assoc _ _ _, trivial,
      Int.max_assoc _ _ _, Int.max_assoc _ _ _, lowerPage_assoc _ _ _, upperPage_assoc _ _ _⟩
  rw [hrest, hfirst]

end Window

/-! ## The semigroup of ordered windows -/

/-- **Ordered windows**, with the proof that they are. -/
def OrderedWindow : Type := { w : Window // w.Ordered }

instance : CommSemigroup OrderedWindow where
  mul a b := ⟨Window.merge a.1 b.1, Window.merge_ordered a.1 b.1⟩
  mul_assoc a b c := Subtype.ext (Window.merge_assoc a.2 b.2 c.2)
  mul_comm a b := Subtype.ext (Window.merge_comm a.1 b.1)

/-- **Merging is a commutative semigroup on ordered windows**, and every window a page, an empty
listing or a merge gives is ordered. -/
theorem merge_comm_assoc_on_ordered :
    (∀ perPage, (Window.empty perPage).Ordered) ∧
    (∀ total perPage page w, Window.calculate total perPage page = .ok w → w.Ordered) ∧
    (∀ a b : Window, (a.merge b).Ordered) ∧
    ∀ a b c : Window, a.Ordered → b.Ordered → c.Ordered →
      a.merge b = b.merge a ∧ (a.merge b).merge c = a.merge (b.merge c) :=
  ⟨Window.empty_ordered, fun _ _ _ _ h => Window.calculate_ordered h, Window.merge_ordered,
    fun a b _ ha hb hc => ⟨Window.merge_comm a b, Window.merge_assoc ha hb hc⟩⟩

/-- Page 2 of 30 rows by tens and page 3 of 12 rows by fives are ordered, and they merge with an
empty listing alike in either order and grouping. -/
theorem page_windows_merge_alike :
    ∃ a b : Window, Window.calculate 30 10 2 = .ok a ∧ Window.calculate 12 5 3 = .ok b ∧
      a.Ordered ∧ b.Ordered ∧ a.merge b = b.merge a ∧
      (a.merge b).merge (Window.empty 7) = a.merge (b.merge (Window.empty 7)) := by
  have ha : Window.calculate 30 10 2 = .ok ⟨30, 10, 11, 20, 10, 3, 2, some 1, some 3⟩ := rfl
  have hb : Window.calculate 12 5 3 = .ok ⟨12, 5, 11, 12, 10, 3, 3, some 2, none⟩ := rfl
  obtain ⟨hempty, hpage, -, hlaws⟩ := merge_comm_assoc_on_ordered
  exact ⟨_, _, ha, hb, hpage _ _ _ _ ha, hpage _ _ _ _ hb,
    hlaws _ _ _ (hpage _ _ _ _ ha) (hpage _ _ _ _ hb) (hempty 7)⟩

end QueryKit.Paging
