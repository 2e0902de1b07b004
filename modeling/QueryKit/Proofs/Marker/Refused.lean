import QueryKit.Proofs.Marker.Chain
import QueryKit.Proofs.Where.Guard

/-!
# Slots of refused joins

A refused call records a fault and otherwise leaves the builder as it was — with one exception.
A join's `ON` calls run on the statement's bindings before the builder decides whether to keep
the join, so a join refused for its table, for a fault of its calls or for having no conditions
keeps the slots its calls bound, and no marker of the statement names them. No other call
leaves such a slot: a condition call checks its operator and column before it binds, and a group
is kept with its conditions even when one of them was refused.

* `Call.dropped b c`: the slots a join call binds when the builder then refuses the join, and
  `Call.droppedAll` those of a chain;
* `Builder.Tallies d b dropped`: the joins' lists and the `WHERE` list are read as the slots
  bound so far, each once, all but `dropped`;
* `Builder.Tallies.apply` is the step, one case per call, and `slots_named_once_but_dropped` the
  run: after every chain of calls each slot is named by exactly one marker, except the slots of
  refused joins, which none names.
-/

namespace QueryKit.Query

open Sql

/-! ## The slots a call drops -/

/-- Whether a call adds a join. -/
def Call.isJoin : Call → Bool
  | .join .. | .joinWith .. | .joinOfType .. => true
  | _ => false

/-- **The slots a call drops**: those the `ON` calls of a join bound, when the builder then
refuses the join. -/
def Call.dropped (b : Builder) (c : Call) : List String :=
  if c.isJoin && (c.apply b).joins.length == b.joins.length then
    slotRange b.bindings.next (c.apply b).bindings.next
  else []

/-- The slots a chain of calls drops, call by call. -/
def Call.droppedAll : Builder → List Call → List String
  | _, [] => []
  | b, c :: rest => c.dropped b ++ droppedAll (c.apply b) rest

namespace Builder

variable {d : Dialect} {b : Builder}

/-! ## What each call changes -/

@[simp] theorem fail_joins (b : Builder) (f : Fault) : (b.fail f).joins = b.joins := by
  unfold fail
  split <;> rfl

/-- **A call that is neither a join nor a condition** keeps the joins and the `WHERE` scope,
its bindings included. -/
theorem apply_frame {c : Call} (hj : c.isJoin = false) (hw : ∀ w, c ≠ .cond w) :
    (c.apply b).joins = b.joins ∧ (c.apply b).scope = b.scope := by
  cases c with
  | table t =>
    simp only [Call.apply, setTable]
    split <;> simp
  | select cols =>
    simp only [Call.apply, select]
    split <;> simp
  | distinct | force => exact ⟨rfl, rfl⟩
  | orderBy column direction =>
    simp only [Call.apply, order]
    split
    · simp
    · split <;> simp
  | limit n =>
    simp only [Call.apply, setLimit]
    split <;> simp
  | offset n =>
    simp only [Call.apply, setOffset]
    split <;> simp
  | onConflictDoNothing cols =>
    simp only [Call.apply, onConflictDoNothing]
    split <;> simp
  | onConflictDoUpdate cols assignments =>
    simp only [Call.apply, onConflictDoUpdate]
    split <;> simp
  | join | joinWith | joinOfType => cases hj
  | cond w => exact absurd rfl (hw w)

/-- **A join hands its calls' bindings to the statement**, and either keeps the joins — it is
refused — or adds one join, on the term of its table and the conditions its calls built. -/
theorem joinWith_cases (b : Builder) (kind : String) (table : Value) (f : Scope → Scope) :
    (b.joinWith kind table (some f)).scope =
        { b.scope with bindings := (f { bindings := b.bindings }).bindings } ∧
      ((b.joinWith kind table (some f)).joins = b.joins ∨
        ∃ t, Term.ofValue table = .ok t ∧ (b.joinWith kind table (some f)).joins =
          b.joins ++ [⟨kind, t, (f { bindings := b.bindings }).clause⟩]) := by
  unfold joinWith
  dsimp only
  split
  · exact ⟨by simp, .inl (by simp)⟩
  · split
    · exact ⟨by simp, .inl (by simp)⟩
    · rename_i t htable
      split
      · exact ⟨by simp, .inl (by simp)⟩
      · exact ⟨rfl, .inr ⟨t, htable, rfl⟩⟩

/-! ## The invariant -/

/-- **Markers that tally with the slots**: the joins' lists and the `WHERE` list are read as the
slots bound so far, each once, all but those in `dropped`. -/
def Tallies (d : Dialect) (b : Builder) (dropped : List String) : Prop :=
  ∃ nj nw, ReadsEach (b.joins.map (fun j => (d.join j).toList)) nj ∧
    EntriesRead d b.scope.clause.entries nw ∧
    (nj ++ nw ++ dropped).Perm (slotRange 1 b.bindings.next)

theorem tallies_new (d : Dialect) (logging : Bool) : Tallies d (Builder.new d logging) [] :=
  ⟨[], [], .nil, .nil, by simp [Builder.new, Builder.bindings]⟩

/-- Slots bound after all the others may be named anywhere among them. -/
theorem perm_after {nj nw w s n : List String} (h : (nj ++ nw ++ w).Perm s) :
    (nj ++ (nw ++ n) ++ w).Perm (s ++ n) ∧ (nj ++ n ++ nw ++ w).Perm (s ++ n) ∧
      (nj ++ nw ++ (w ++ n)).Perm (s ++ n) := by
  have hlast : (nj ++ nw ++ w ++ n).Perm (s ++ n) := h.append_right n
  refine ⟨?_, ?_, by simpa using hlast⟩
  · have hswap : (nj ++ nw ++ (n ++ w)).Perm (nj ++ nw ++ (w ++ n)) :=
      List.perm_append_comm.append_left _
    simpa using hswap.trans (by simpa using hlast)
  · have hswap : (nj ++ (n ++ (nw ++ w))).Perm (nj ++ ((nw ++ w) ++ n)) :=
      List.perm_append_comm.append_left _
    simpa using hswap.trans (by simpa using hlast)

/-! ## One call -/

/-- **A refused call** that bound nothing keeps the tally. -/
theorem Tallies.fail (h : Tallies d b w) (f : Fault) : Tallies d (b.fail f) w := by
  simpa [Tallies, Builder.bindings] using h

/-- **A call that is neither a join nor a condition** binds nothing and names nothing. -/
theorem Tallies.frame (h : Tallies d b w) {c : Call} (hj : c.isJoin = false)
    (hw : ∀ w, c ≠ .cond w) : Tallies d (c.apply b) (w ++ c.dropped b) := by
  obtain ⟨hjoins, hscope⟩ := apply_frame (b := b) hj hw
  simpa [Tallies, Call.dropped, hj, hjoins, hscope, Builder.bindings] using h

/-- **A condition on the `WHERE`** appends entries read as the slots it bound, refused or not. -/
theorem Tallies.onWhere (hq : isQuoteChar d.quote = true) (hb : Carries d b) (h : Tallies d b w)
    {c : Cond} (hc : c.noRaw = true) : Tallies d (b.onWhere (fun s => c.apply "where" s)) w := by
  obtain ⟨hgrown, added, hentries, hread⟩ := (Scope.grows_apply hq "where").1 b.scope c hc hb.one_le
  obtain ⟨nj, nw, hj, hw, hperm⟩ := h
  refine ⟨nj, nw ++ slotRange b.bindings.next (c.apply "where" b.scope).bindings.next, hj, ?_, ?_⟩
  · simpa [Builder.onWhere, Builder.bindings, hentries] using hw.append hread
  · have hall := (perm_after (n := slotRange b.bindings.next (c.apply "where" b.scope).bindings.next)
      hperm).1
    rw [slotRange_append hb.one_le hgrown.1] at hall
    simpa [Builder.onWhere, Builder.bindings] using hall

/-- **A join** tallies: a kept join's `ON` list is read as the slots its calls bound, and a
refused join drops them. -/
theorem Tallies.joinWith (hq : isQuoteChar d.quote = true) (hb : Carries d b) (h : Tallies d b w)
    {kind : String} {table : Value} {f : Scope → Scope} (hk : ∀ x ∈ kind.toList, isPlain x = true)
    (ht : table.noRaw = true)
    (hf : Scope.Grows d { bindings := b.bindings } (f { bindings := b.bindings })) :
    Tallies d (b.joinWith kind table (some f))
      (w ++ if (b.joinWith kind table (some f)).joins.length == b.joins.length then
        slotRange b.bindings.next (b.joinWith kind table (some f)).bindings.next else []) := by
  obtain ⟨hgrown, added, hentries, hread⟩ := hf
  obtain ⟨nj, nw, hj, hw, hperm⟩ := h
  have hnew := (perm_after (n := slotRange b.bindings.next (f { bindings := b.bindings }).bindings.next)
    hperm)
  rw [slotRange_append hb.one_le hgrown.1] at hnew
  obtain ⟨hscope, hjoins | ⟨t, htable, hjoins⟩⟩ := joinWith_cases b kind table f
  · refine ⟨nj, nw, by rw [hjoins]; exact hj, by simpa [hscope] using hw, ?_⟩
    simpa [hjoins, hscope, Builder.bindings] using hnew.2.2
  · have hon : EntriesRead d (f { bindings := b.bindings }).clause.entries
        (slotRange b.bindings.next (f { bindings := b.bindings }).bindings.next) := by
      simpa [hentries] using hread
    have hjoin := reads_join hq (j := ⟨kind, t, (f { bindings := b.bindings }).clause⟩) hk
      (Term.quiet_of_ofValue ht htable) hon
    refine ⟨nj ++ (slotRange b.bindings.next (f { bindings := b.bindings }).bindings.next ++ []), nw,
      ?_, by simpa [hscope] using hw, ?_⟩
    · rw [hjoins, List.map_append]
      exact hj.append (ReadsEach.cons hjoin .nil)
    · simpa [hjoins, hscope, Builder.bindings] using hnew.2.1

theorem Tallies.joinScope (hq : isQuoteChar d.quote = true) (hb : Carries d b) (h : Tallies d b w)
    {kind : String} {table : Value} {calls : Option (List Cond)}
    (hk : ∀ x ∈ kind.toList, isPlain x = true) (ht : table.noRaw = true)
    (hcalls : calls.all Cond.allNoRaw = true) :
    Tallies d (b.joinWith kind table (Call.joinScope calls))
      (w ++ if (b.joinWith kind table (Call.joinScope calls)).joins.length == b.joins.length then
        slotRange b.bindings.next (b.joinWith kind table (Call.joinScope calls)).bindings.next
      else []) := by
  cases calls with
  | none =>
    simp only [Call.joinScope, Builder.joinWith, fail_joins, fail_scope, beq_self_eq_true,
      ↓reduceIte, Builder.bindings, slotRange_self, List.append_nil]
    exact h.fail _
  | some calls =>
    exact h.joinWith hq hb hk ht
      ((Scope.grows_apply hq "join").2 { bindings := b.bindings } calls (by simpa using hcalls) hb.one_le)

/-- **Every call tallies**, refused or not, dropping the slots of a join it refuses: one case per
call. A join on one comparison is the join whose calls make it, and a join of an unknown kind is
refused before any of its calls runs. -/
theorem Tallies.apply (hq : isQuoteChar d.quote = true) (hb : Carries d b) (h : Tallies d b w)
    {c : Call} (hc : c.noRaw d = true) : Tallies d (c.apply b) (w ++ c.dropped b) := by
  cases c with
  | join kind table first op second =>
    simp only [Call.noRaw, Bool.and_eq_true, List.all_eq_true] at hc
    obtain ⟨⟨⟨hk, ht⟩, ha⟩, hs⟩ := hc
    have hgrows := (Scope.grows_apply hq "join").1 { bindings := b.bindings }
      (.columns .and first op second) (by simp [Cond.noRaw, ha, hs]) hb.one_le
    simpa [Call.dropped, Call.isJoin, Call.apply, joinOn] using
      h.joinWith hq hb (f := fun s => s.columns .and first op second) hk ht hgrows
  | joinWith kind table calls =>
    simp only [Call.noRaw, Bool.and_eq_true, List.all_eq_true] at hc
    simpa [Call.dropped, Call.isJoin, Call.apply] using h.joinScope hq hb hc.1.1 hc.1.2 hc.2
  | joinOfType kind table calls =>
    simp only [Call.noRaw, Bool.and_eq_true] at hc
    simp only [Call.dropped, Call.isJoin, Call.apply, joinOfType, Bool.true_and]
    split
    · simpa [Builder.bindings] using h.fail _
    · rename_i k hkind
      exact h.joinScope hq hb (plain_of_parseJoinKind hkind) hc.1 hc.2
  | cond c => simpa [Call.dropped, Call.isJoin, Call.apply] using h.onWhere hq hb hc
  | table | select | distinct | orderBy | limit | offset | force | onConflictDoNothing
    | onConflictDoUpdate => exact h.frame rfl (fun _ => by simp)

/-- **Every chain of calls tallies**, dropping the slots of the joins it refuses. -/
theorem tallies_applyAll (hq : isQuoteChar d.quote = true) :
    ∀ (calls : List Call) {b : Builder} {w : List String}, Carries d b → Tallies d b w →
      (∀ c ∈ calls, c.noRaw d = true) →
      Tallies d (Call.applyAll b calls) (w ++ Call.droppedAll b calls)
  | [], _, _, _, h, _ => by simpa [Call.droppedAll, Call.applyAll] using h
  | c :: rest, b, w, hb, h, hcalls => by
    have hc := hcalls c (List.mem_cons_self ..)
    have hrest := tallies_applyAll hq rest (hb.apply hq hc) (h.apply hq hb hc)
      (fun x hx => hcalls x (List.mem_cons_of_mem _ hx))
    simpa [Call.droppedAll, Call.applyAll] using hrest

/-! ## Every chain of calls -/

/-- **Every slot is named once, except those of refused joins.** After every chain of calls that
passes names and bound values only, from a fresh builder, the markers of the joins' `ON` lists and
of the `WHERE` list, at every depth, name the builder's slots each once, except the slots that
the calls of refused joins bound, which no marker names. So every slot is named by exactly one
marker exactly when no refused join bound a value. The slots are numbered from one on, and as
many markers as slots leave none to drop. -/
theorem slots_named_once_but_dropped (hq : isQuoteChar d.quote = true) (logging : Bool)
    (calls : List Call) (hcalls : ∀ c ∈ calls, c.noRaw d = true) :
    ∃ nj nw, ReadsEach ((Call.applyAll (Builder.new d logging) calls).joins.map
        (fun j => (d.join j).toList)) nj ∧
      EntriesRead d (Call.applyAll (Builder.new d logging) calls).scope.clause.entries nw ∧
      (nj ++ nw ++ Call.droppedAll (Builder.new d logging) calls).Perm
        ((Call.applyAll (Builder.new d logging) calls).bindings.entries.map (·.name)) ∧
      ((nj ++ nw).Perm
          ((Call.applyAll (Builder.new d logging) calls).bindings.entries.map (·.name)) ↔
        Call.droppedAll (Builder.new d logging) calls = []) := by
  have hcarries := carries_applyAll hq calls (carries_new d logging) hcalls
  obtain ⟨nj, nw, hj, hw, hperm⟩ :=
    tallies_applyAll hq calls (carries_new d logging) (tallies_new d logging) hcalls
  obtain ⟨-, added, hentries, hnames⟩ := hcarries.slots
  have hslots : (Call.applyAll (Builder.new d logging) calls).bindings.entries.map (·.name) =
      slotRange 1 (Call.applyAll (Builder.new d logging) calls).bindings.next := by
    simpa [hentries, Bindings.empty] using hnames
  rw [hslots]
  refine ⟨nj, nw, hj, hw, by simpa using hperm, ⟨fun hexact => ?_, fun hnone => ?_⟩⟩
  · have hlen := hperm.length_eq.trans hexact.length_eq.symm
    simp only [List.length_append] at hlen
    exact List.eq_nil_of_length_eq_zero (by omega)
  · simpa [hnone] using hperm

/-- On MySQL, a join refused for its table drops the slot its condition bound, and the markers
of the builder tally with its slots but for that one. -/
theorem refused_join_drops_its_slot :
    let calls := [Call.table (.text "users"),
      .joinWith "INNER" (.int 42) (some [.compare .and (.text "active") "=" (.int 1)])]
    let b := Call.applyAll (Builder.new .mysql) calls
    isQuoteChar Dialect.mysql.quote = true ∧ (∀ c ∈ calls, c.noRaw .mysql = true) ∧
      Call.droppedAll (Builder.new .mysql) calls = ["v1"] ∧
      ∃ nj nw, ReadsEach (b.joins.map (fun j => (Dialect.mysql.join j).toList)) nj ∧
        EntriesRead .mysql b.scope.clause.entries nw ∧
        (nj ++ nw ++ Call.droppedAll (Builder.new .mysql) calls).Perm
          (b.bindings.entries.map (·.name)) ∧
        ((nj ++ nw).Perm (b.bindings.entries.map (·.name)) ↔
          Call.droppedAll (Builder.new .mysql) calls = []) :=
  ⟨by decide, by decide, by decide, slots_named_once_but_dropped (by decide) true _ (by decide)⟩

/-- A join refused for its table keeps the slot its condition bound: the builder holds `v1`, but
has no join and no condition that could name it. -/
theorem refused_join_keeps_its_slot :
    (Call.applyAll (Builder.new .mysql) [.table (.text "users"),
        .joinWith "INNER" (.int 42) (some [.compare .and (.text "active") "=" (.int 1)])]).bindings.entries.map
        (·.name) = ["v1"] ∧
      (Call.applyAll (Builder.new .mysql) [.table (.text "users"),
        .joinWith "INNER" (.int 42) (some [.compare .and (.text "active") "=" (.int 1)])]).joins = [] ∧
      (Call.applyAll (Builder.new .mysql) [.table (.text "users"),
        .joinWith "INNER" (.int 42) (some [.compare .and (.text "active") "=" (.int 1)])]).scope.clause.entries = [] :=
  ⟨by decide, rfl, rfl⟩

end Builder

end QueryKit.Query
