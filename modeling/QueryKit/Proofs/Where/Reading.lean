import QueryKit.Sql.Condition
import Mathlib.Data.List.Forall2

/-!
# Reading a condition list as a predicate

A `WHERE` list is read as SQL reads it: items joined to the one before by `AND` or `OR`, `AND`
binding tighter, the joiner of the first item not read; an item is a condition or a
parenthesized list. `Reading α` is such a list with its conditions labelled by `α`:

* `Reading.holds v items` is its truth when the `k`-th condition, labelled `a`, has the truth
  `v k a` (`precedence` does the joining);
* `Entry.readingAll` reads a written entry list, each comparison a condition labelled by its
  terms and operator; a group that reads as nothing is written as nothing and dropped;
* `Reading.Matches R t u` says two readings have the same items, joiners and groups, with each
  condition of `t` related by `R` to the condition of `u` in its place; then their truths agree
  whenever the truths of related conditions do (`holds_eq_of_matches`).
-/

namespace QueryKit.Sql

/-- **A reading of a condition list**: an item is a condition labelled by `α`, or a list of
items in parentheses, each joined to the item before it. -/
inductive Reading (α : Type) where
  | cond (label : α) (conj : Conjunction)
  | paren (items : List (Reading α)) (conj : Conjunction)
  deriving Repr

namespace Reading

variable {α β : Type}

/-- The joiner of an item. -/
def conj : Reading α → Conjunction
  | .cond _ c => c
  | .paren _ c => c

mutual

/-- The conditions of an item, in order. -/
def leaves : Reading α → List α
  | .cond a _ => [a]
  | .paren items _ => leavesAll items

/-- The conditions of a list of items, in order. -/
def leavesAll : List (Reading α) → List α
  | [] => []
  | r :: rest => leaves r ++ leavesAll rest

end

mutual

/-- Relabels the conditions. -/
def map (f : α → β) : Reading α → Reading β
  | .cond a c => .cond (f a) c
  | .paren items c => .paren (mapAll f items) c

/-- Relabels the conditions of a list of items. -/
def mapAll (f : α → β) : List (Reading α) → List (Reading β)
  | [] => []
  | r :: rest => map f r :: mapAll f rest

end

/-- The items, joiners and groups of a reading, its conditions unlabelled. -/
def shape (items : List (Reading α)) : List (Reading Unit) := mapAll (fun _ => ()) items

/-! ## Truth -/

/-- Joined truths read left to right: `done` is the truth of the `OR` of the runs already
closed, `run` that of the `AND` run under way. -/
def runs (done run : Bool) : List (Conjunction × Bool) → Bool
  | [] => done || run
  | (.and, b) :: rest => runs done (run && b) rest
  | (.or, b) :: rest => runs (done || run) b rest

/-- **SQL precedence**: `AND` binds tighter than `OR` and the first joiner is not read. An empty
list, no condition at all, holds. -/
def precedence : List (Conjunction × Bool) → Bool
  | [] => true
  | (_, b) :: rest => runs false b rest

mutual

/-- The truth of an item whose `k`-th condition `a` has the truth `v k a`. -/
def value (v : Nat → α → Bool) : Reading α → Bool
  | .cond a _ => v 0 a
  | .paren items _ => precedence (values v items)

/-- The joiners and truths of a list of items, each item's conditions counted after those of
the items before it. -/
def values (v : Nat → α → Bool) : List (Reading α) → List (Conjunction × Bool)
  | [] => []
  | r :: rest => (r.conj, value v r) :: values (fun k => v (k + (leaves r).length)) rest

end

/-- **The truth of a reading** whose `k`-th condition `a` has the truth `v k a`. -/
def holds (v : Nat → α → Bool) (items : List (Reading α)) : Bool := precedence (values v items)

example : precedence [(.and, false), (.or, true), (.and, false)] = false := by decide

example : precedence [(.or, false), (.and, true), (.or, true)] = true := by decide

/-! ## Relabelling -/

@[simp] theorem conj_map (f : α → β) (r : Reading α) : (map f r).conj = r.conj := by
  cases r <;> rfl

@[simp] theorem mapAll_append (f : α → β) :
    ∀ t u : List (Reading α), mapAll f (t ++ u) = mapAll f t ++ mapAll f u
  | [], _ => rfl
  | r :: t, u => by simp only [List.cons_append, mapAll, mapAll_append f t u]

@[simp] theorem leavesAll_append :
    ∀ t u : List (Reading α), leavesAll (t ++ u) = leavesAll t ++ leavesAll u
  | [], _ => rfl
  | r :: t, u => by simp only [List.cons_append, leavesAll, leavesAll_append t u, List.append_assoc]

mutual

theorem leaves_map (f : α → β) : ∀ r : Reading α, leaves (map f r) = (leaves r).map f
  | .cond _ _ => rfl
  | .paren items _ => by
    simp only [map, leaves]
    exact leavesAll_mapAll f items

theorem leavesAll_mapAll (f : α → β) :
    ∀ items : List (Reading α), leavesAll (mapAll f items) = (leavesAll items).map f
  | [] => rfl
  | r :: rest => by
    simp only [mapAll, leavesAll, List.map_append]
    rw [leaves_map f r, leavesAll_mapAll f rest]

end

theorem length_leaves_of_map_eq {f : α → Unit} {g : β → Unit} {r : Reading α} {s : Reading β}
    (h : map f r = map g s) : (leaves r).length = (leaves s).length := by
  have hmapped := congrArg (fun x => (leaves x).length) h
  simpa [leaves_map] using hmapped

theorem shape_eq_nil {t : List (Reading α)} : shape t = [] ↔ t = [] := by
  cases t <;> simp [shape, mapAll]

/-! ## Matching readings -/

/-- **Two readings that match**: the same items, joiners and groups, each condition of `t`
related by `R` to the condition of `u` in its place. -/
def Matches (R : α → β → Prop) (t : List (Reading α)) (u : List (Reading β)) : Prop :=
  shape t = shape u ∧ List.Forall₂ R (leavesAll t) (leavesAll u)

variable {R : α → β → Prop}

theorem Matches.nil : Matches R [] [] := ⟨rfl, .nil⟩

theorem Matches.cond {a : α} {b : β} (h : R a b) (c : Conjunction) :
    Matches R [.cond a c] [.cond b c] :=
  ⟨rfl, .cons h .nil⟩

theorem Matches.append {t t' : List (Reading α)} {u u' : List (Reading β)} (h : Matches R t u)
    (h' : Matches R t' u') : Matches R (t ++ t') (u ++ u') := by
  obtain ⟨hshape, hleaves⟩ := h
  obtain ⟨hshape', hleaves'⟩ := h'
  refine ⟨?_, ?_⟩
  · simp only [shape, mapAll_append] at hshape hshape' ⊢
    rw [hshape, hshape']
  · rw [leavesAll_append, leavesAll_append]
    exact List.rel_append hleaves hleaves'

theorem Matches.eq_nil {t : List (Reading α)} (h : Matches R t []) : t = [] :=
  shape_eq_nil.mp h.1

/-- **A group matches a group**: matching lists in parentheses, both dropped when empty. -/
theorem Matches.group {t : List (Reading α)} {u : List (Reading β)} (h : Matches R t u)
    (c : Conjunction) :
    Matches R (if t.isEmpty then [] else [.paren t c]) (if u.isEmpty then [] else [.paren u c]) := by
  have hempty : t.isEmpty = u.isEmpty := by
    have hlen := congrArg List.length h.1
    simp only [shape] at hlen
    cases t <;> cases u <;> simp_all [mapAll]
  rw [hempty]
  split
  · exact Matches.nil
  · refine ⟨?_, ?_⟩
    · simp only [shape, mapAll, map]
      rw [← shape, ← shape, h.1]
    · simpa [leavesAll, leaves] using h.2

theorem Forall₂.rel_of_getElem? {l₁ : List α} {l₂ : List β} (h : List.Forall₂ R l₁ l₂) :
    ∀ {k : Nat} {a : α} {b : β}, l₁[k]? = some a → l₂[k]? = some b → R a b := by
  induction h with
  | nil => intro k a b ha; simp at ha
  | cons hab _ ih =>
    intro k a b ha hb
    cases k with
    | zero =>
      simp only [List.getElem?_cons_zero, Option.some.injEq] at ha hb
      subst ha hb
      exact hab
    | succ k => exact ih (by simpa using ha) (by simpa using hb)

mutual

/-- Two items of one shape have one truth when their conditions, place by place, do. -/
theorem value_congr : ∀ (r : Reading α) (s : Reading β) (v : Nat → α → Bool)
    (w : Nat → β → Bool), map (fun _ => ()) r = map (fun _ => ()) s →
    (∀ k a b, (leaves r)[k]? = some a → (leaves s)[k]? = some b → v k a = w k b) →
    value v r = value w s
  | .cond a _, .cond b _, _, _, _, hvw => hvw 0 a b rfl rfl
  | .paren t _, .paren u _, v, w, h, hvw => by
    simp only [map, paren.injEq] at h
    simp only [value]
    rw [values_congr t u v w h.1 hvw]
  | .cond _ _, .paren _ _, _, _, h, _ => by simp [map] at h
  | .paren _ _, .cond _ _, _, _, h, _ => by simp [map] at h

/-- Two lists of items of one shape have one truth when their conditions, place by place, do: the
first item's conditions come first, and the rest are counted after them. -/
theorem values_congr : ∀ (t : List (Reading α)) (u : List (Reading β)) (v : Nat → α → Bool)
    (w : Nat → β → Bool), mapAll (fun _ => ()) t = mapAll (fun _ => ()) u →
    (∀ k a b, (leavesAll t)[k]? = some a → (leavesAll u)[k]? = some b → v k a = w k b) →
    values v t = values w u
  | [], [], _, _, _, _ => rfl
  | r :: t, s :: u, v, w, h, hvw => by
    simp only [mapAll, List.cons.injEq] at h
    obtain ⟨hrs, htu⟩ := h
    have hlen := length_leaves_of_map_eq hrs
    have hconj : r.conj = s.conj := by simpa using congrArg conj hrs
    have hhead : ∀ k a b, (leaves r)[k]? = some a → (leaves s)[k]? = some b → v k a = w k b := by
      intro k a b ha hb
      have hk : k < (leaves r).length := (List.getElem?_eq_some_iff.mp ha).1
      have hk' : k < (leaves s).length := (List.getElem?_eq_some_iff.mp hb).1
      exact hvw k a b (by simpa [leavesAll, List.getElem?_append_left hk] using ha)
        (by simpa [leavesAll, List.getElem?_append_left hk'] using hb)
    have htail : ∀ k a b, (leavesAll t)[k]? = some a → (leavesAll u)[k]? = some b →
        v (k + (leaves r).length) a = w (k + (leaves s).length) b := by
      intro k a b ha hb
      rw [← hlen]
      refine hvw (k + (leaves r).length) a b ?_ ?_
      · rw [leavesAll, List.getElem?_append_right (by omega)]
        simpa using ha
      · rw [leavesAll, List.getElem?_append_right (by omega), hlen]
        simpa using hb
    simp only [values]
    rw [hconj, value_congr r s v w hrs hhead,
      values_congr t u (fun k => v (k + (leaves r).length)) (fun k => w (k + (leaves s).length))
        htu htail]
  | [], _ :: _, _, _, h, _ => by simp [mapAll] at h
  | _ :: _, [], _, _, h, _ => by simp [mapAll] at h

end

/-- **Matching readings hold together** when each condition of the first takes the truth of the
condition in its place in the second. -/
theorem holds_eq_of_matches {t : List (Reading α)} {u : List (Reading β)} (h : Matches R t u)
    {v : Nat → α → Bool} {w : Nat → β → Bool}
    (hvw : ∀ k a b, (leavesAll u)[k]? = some b → R a b → v k a = w k b) :
    holds v t = holds w u := by
  unfold holds
  rw [values_congr t u v w h.1 fun k a b ha hb => hvw k a b hb (Forall₂.rel_of_getElem? h.2 ha hb)]

end Reading

/-! ## Written entries -/

/-- The comparison `1 = 0` of two literals, false of every row. -/
def oneIsZero : Term × String × Term := (Term.sql "1", "=", Term.sql "0")

namespace Entry

mutual

/-- **The reading of a written entry**: a comparison is a condition labelled by its terms and
operator, a group its entries' reading in parentheses; a group that reads as nothing is written
as nothing, and read so. -/
def read : Entry → List (Reading (Term × String × Term))
  | .compare l op r conj => [.cond (l, op, r) conj]
  | .group inner conj =>
    let items := readingAll inner
    if items.isEmpty then [] else [.paren items conj]

/-- **The reading of written entries**, one after another. -/
def readingAll : List Entry → List (Reading (Term × String × Term))
  | [] => []
  | e :: rest => read e ++ readingAll rest

end

@[simp] theorem readingAll_append :
    ∀ es es' : List Entry, readingAll (es ++ es') = readingAll es ++ readingAll es'
  | [], _ => rfl
  | e :: es, es' => by
    simp only [List.cons_append, readingAll, readingAll_append es es', List.append_assoc]

/-- **A truth assignment that keeps the literal `1 = 0` false**: every written `1 = 0` takes the
truth false. -/
def KeepsOneIsZero (ρ : Nat → Bool) (items : List (Reading (Term × String × Term))) : Prop :=
  ∀ k, (Reading.leavesAll items)[k]? = some oneIsZero → ρ k = false

end Entry

end QueryKit.Sql
