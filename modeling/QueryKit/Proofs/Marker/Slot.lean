import QueryKit.Proofs.Marker.Quote
import QueryKit.Query.Scope
import Mathlib.Data.List.Nodup

/-!
# Numbered slots and the text that carries them

Every value the builder binds gets the next numbered slot, `v1`, `v2`, …, and the marker
`:vN` stands for it in the statement. This module says what binding does to the bindings and
how the texts that carry markers are read:

* `slotName n` is `vN` and `slotRange a b` the slots from `a` up to before `b`: distinct, and
  consecutive ranges join (`slotRange_append`);
* a value that is no raw SQL (`Value.noRaw`) gets the next slot (`Bindings.add_of_rawSql_none`),
  and `Bindings.Grown` says bindings grew by exactly the slots in between;
* a marker, a parenthesized list of markers and a `BETWEEN` pair are read as their slots, in
  order (`reads_slot`, `reads_markerList`, `reads_markerPair`); numbers are read as nothing.
-/

namespace QueryKit

/-- **A value that is bound and never written**: neither it nor anything in its list view is
raw SQL. -/
def Value.noRaw (v : Value) : Bool :=
  v.rawSql?.isNone && v.elements.all (fun x => x.rawSql?.isNone)

theorem Value.rawSql_of_noRaw {v : Value} (h : v.noRaw = true) : v.rawSql? = none := by
  simp only [Value.noRaw, Bool.and_eq_true, Option.isNone_iff_eq_none] at h
  exact h.1

theorem Value.elements_rawSql_of_noRaw {v : Value} (h : v.noRaw = true) :
    ∀ x ∈ v.elements, x.rawSql? = none := by
  simp only [Value.noRaw, Bool.and_eq_true, List.all_eq_true, Option.isNone_iff_eq_none] at h
  exact h.2

end QueryKit

namespace QueryKit.Sql

/-! ## Plain characters of numbers -/

theorem isDigit_isPlain {c : Char} (h : c.isDigit = true) : isPlain c = true := by
  simp only [Char.isDigit, Bool.and_eq_true, decide_eq_true_eq] at h
  have hne : ∀ x : Char, x.val < 48 ∨ 57 < x.val → c ≠ x := by
    rintro x hx rfl
    rcases hx with hx | hx
    · exact absurd h.1 (by simpa using hx)
    · exact absurd h.2 (by simpa using hx)
  simp [isPlain, isQuoteChar, hne ':' (by decide), hne '\'' (by decide), hne '"' (by decide),
    hne '\x60' (by decide)]

theorem plain_natToString (n : Nat) : ∀ c ∈ (toString n).toList, isPlain c = true := by
  intro c hc
  rw [Nat.toString_eq_repr, Nat.toList_repr] at hc
  exact isDigit_isPlain (Nat.isDigit_of_mem_toDigits (by decide) (by decide) hc)

theorem plain_intToString (n : Int) : ∀ c ∈ (toString n).toList, isPlain c = true := by
  intro c hc
  cases n with
  | ofNat m => exact plain_natToString m c (by simpa [Int.repr] using hc)
  | negSucc m =>
    have hs : toString (Int.negSucc m) = "-" ++ toString (m + 1) := rfl
    rw [hs, String.toList_append] at hc
    rcases List.mem_append.mp hc with hc | hc
    · simp at hc; subst hc; decide
    · exact plain_natToString (m + 1) c hc

/-! ## Slot names -/

/-- **The name of numbered slot `n`.** -/
def slotName (n : Nat) : String := "v" ++ toString n

/-- The slots from `a` up to before `b`. -/
def slotRange (a b : Nat) : List String := (List.range' a (b - a)).map slotName

theorem slotName_injective : Function.Injective slotName := by
  intro a b h
  have hd : Nat.toDigits 10 a = Nat.toDigits 10 b := by
    simpa [slotName, Nat.toString_eq_repr, ← Nat.toList_repr] using
      congrArg (fun s => (String.toList s).drop 1) h
  rw [← Nat.ofDigitChars_ten_toDigits (n := a), hd, Nat.ofDigitChars_ten_toDigits]

theorem nameChar_of_isDigit {c : Char} (h : c.isDigit = true) : nameChar false c = true := by
  have h57 : c.toNat ≤ 57 := by
    simp only [Char.isDigit, Bool.and_eq_true, decide_eq_true_eq] at h
    exact UInt32.le_iff_toNat_le.mp h.2
  simp [nameChar, h, show c.toNat < 128 by omega]

theorem isName_slotName (n : Nat) : IsName (slotName n).toList := by
  have hs : (slotName n).toList = 'v' :: (toString n).toList := by simp [slotName]
  rw [hs]
  refine ⟨by decide, fun c hc => ?_⟩
  rw [Nat.toString_eq_repr, Nat.toList_repr] at hc
  exact nameChar_of_isDigit (Nat.isDigit_of_mem_toDigits (by decide) (by decide) hc)

/-- **A marker is read as its slot.** -/
theorem reads_slot (n : Nat) : Reads (":" ++ slotName n).toList [slotName n] isBreak := by
  have h := reads_marker (isName_slotName n)
  rw [String.ofList_toList] at h
  simpa using h.mono (fun c hc => by simp only [isBreak, Bool.and_eq_true] at hc; exact hc.1)

@[simp] theorem slotRange_self (a : Nat) : slotRange a a = [] := by simp [slotRange]

theorem slotRange_append {a b c : Nat} (hab : a ≤ b) (hbc : b ≤ c) :
    slotRange a b ++ slotRange b c = slotRange a c := by
  have hmid : a + (b - a) = b := by omega
  have hsplit : c - a = (b - a) + (c - b) := by omega
  unfold slotRange
  rw [hsplit, ← List.range'_append_1, hmid, List.map_append]

theorem slotRange_cons (a k : Nat) :
    slotRange a (a + (k + 1)) = slotName a :: slotRange (a + 1) (a + 1 + k) := by
  simp only [slotRange, show a + (k + 1) - a = k + 1 by omega,
    show a + 1 + k - (a + 1) = k by omega, List.range'_succ, List.map_cons]

theorem slotRange_nodup (a b : Nat) : (slotRange a b).Nodup :=
  List.Nodup.map slotName_injective List.nodup_range'

/-! ## Binding -/

namespace Bindings

/-- **A value that is no raw SQL takes the next numbered slot**, the counter's zero standing for
one. -/
theorem add_numbered {b : Bindings} {v : Value} (hv : v.rawSql? = none) :
    b.add v = (":" ++ slotName (max b.next 1),
      { next := max b.next 1 + 1, entries := b.entries ++ [⟨slotName (max b.next 1), v⟩] }) := by
  have hslot : (if (b.next == 0) = true then 1 else b.next) = max b.next 1 := by
    split
    · rename_i hzero
      simp only [beq_iff_eq] at hzero
      simp [hzero]
    · rename_i hpos
      simp only [beq_iff_eq] at hpos
      omega
  simp only [add, hv, hslot, slotName]

theorem add_of_rawSql_none {b : Bindings} {v : Value} (hv : v.rawSql? = none) (hb : 1 ≤ b.next) :
    b.add v = (":" ++ slotName b.next,
      { next := b.next + 1, entries := b.entries ++ [⟨slotName b.next, v⟩] }) := by
  rw [add_numbered hv, Nat.max_eq_left hb]

/-- **Bindings grown by numbered slots**: `b'` is `b` with the slots from `b.next` to before
`b'.next` added at the end. -/
def Grown (b b' : Bindings) : Prop :=
  b.next ≤ b'.next ∧ ∃ added : List Binding, b'.entries = b.entries ++ added ∧
    added.map (·.name) = slotRange b.next b'.next

theorem Grown.refl (b : Bindings) : Grown b b := ⟨Nat.le_refl _, [], by simp, by simp⟩

theorem Grown.trans {b₁ b₂ b₃ : Bindings} (h₁ : Grown b₁ b₂) (h₂ : Grown b₂ b₃) : Grown b₁ b₃ := by
  obtain ⟨hle₁, a₁, he₁, hn₁⟩ := h₁
  obtain ⟨hle₂, a₂, he₂, hn₂⟩ := h₂
  refine ⟨Nat.le_trans hle₁ hle₂, a₁ ++ a₂, by simp [he₂, he₁], ?_⟩
  rw [List.map_append, hn₁, hn₂, slotRange_append hle₁ hle₂]

theorem Grown.add {b : Bindings} {v : Value} (hv : v.rawSql? = none) (hb : 1 ≤ b.next) :
    Grown b (b.add v).2 := by
  rw [add_of_rawSql_none hv hb]
  refine ⟨Nat.le_succ _, [⟨slotName b.next, v⟩], rfl, ?_⟩
  simp [slotRange]

end Bindings

/-! ## Texts that carry markers -/

/-- Consecutive markers are read as their slots, in order. -/
theorem readsEach_markers (n k : Nat) :
    ReadsEach ((List.range' n k).map (fun i => (":" ++ slotName i).toList))
      (slotRange n (n + k)) := by
  induction k generalizing n with
  | zero => simpa using ReadsEach.nil
  | succ k ih =>
    rw [slotRange_cons, List.range'_succ, List.map_cons]
    exact ReadsEach.cons (reads_slot n) (ih (n + 1))

/-- **A parenthesized list of markers** of consecutive slots is read as those slots. -/
theorem reads_markerList (n k : Nat) :
    Reads ("(" ++ ", ".intercalate ((List.range' n k).map (fun i => ":" ++ slotName i)) ++
      ")").toList (slotRange n (n + k)) isBreak := by
  have hbody := Reads.intercalate (c := ',') (t := [' ']) rfl (by decide) (by decide)
    (readsEach_markers n k)
  have hopen : Reads ['('] [] (fun _ => true) := reads_plain (by decide)
  have hclose : Reads [')'] [] (fun _ => true) := reads_plain (by decide)
  have hinner := hbody.append hclose (fun _ _ => by simp [Follows]; decide)
  have hall : Reads _ _ isBreak :=
    (hopen.append hinner (fun _ _ => follows_true _)).mono (fun _ _ => rfl)
  simpa [Function.comp_def, List.append_assoc] using hall

/-- **A `BETWEEN` pair** of consecutive slots is read as those slots. -/
theorem reads_markerPair (n : Nat) :
    Reads ((":" ++ slotName n) ++ " AND " ++ (":" ++ slotName (n + 1))).toList
      (slotRange n (n + 2)) isBreak := by
  have hand : Reads " AND ".toList [] (fun _ => true) := reads_plainText (by decide)
  have htail := hand.append (reads_slot (n + 1)) (fun _ _ => follows_true _)
  have hall := (reads_slot n).append htail (fun _ _ => by simp [Follows]; decide)
  have hr : slotRange n (n + 2) = [slotName n, slotName (n + 1)] := by
    simp [slotRange, List.range'_succ]
  simpa [hr] using hall

end QueryKit.Sql
