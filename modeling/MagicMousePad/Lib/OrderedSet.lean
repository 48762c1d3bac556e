import Mathlib.Order.Defs.Unbundled
import Mathlib.Data.List.Sublists

/-!
# Ordered sets

A set kept as the strictly increasing list of its elements under a comparison
`less`, the way an ordered container iterates over it.  `emplace` adds an
element unless an equivalent one (neither less nor greater) is present, and
`sweep` is the erase-while-iterating loop: it visits the elements in order and
erases those on which the visit fails, continuing at the element after the
erased one.
-/

/-- A list in strictly increasing order of `less`. -/
structure OrderedSet {α : Type*} (less : α → α → Prop) where
  toList : List α
  sorted : toList.Pairwise less

namespace OrderedSet

variable {α : Type*} {less : α → α → Prop}

theorem ext_toList {s t : OrderedSet less} (same : s.toList = t.toList) : s = t := by
  cases s
  cases t
  cases same
  rfl

instance : EmptyCollection (OrderedSet less) := ⟨⟨[], .nil⟩⟩

@[simp] theorem toList_empty : (∅ : OrderedSet less).toList = [] := rfl

theorem nodup [Std.Irrefl less] (s : OrderedSet less) : s.toList.Nodup :=
  s.sorted.nodup

/-- Neither is less than the other: an ordered set holds at most one of them. -/
def Equivalent (less : α → α → Prop) (a b : α) : Prop := ¬ less a b ∧ ¬ less b a

/-- A strict order under which two elements are either the same or in exactly one
order. -/
structure StrictTotal (less same : α → α → Prop) : Prop where
  irrefl : ∀ a, ¬ less a a
  trans : ∀ a b c, less a b → less b c → less a c
  exactlyOne : ∀ a b, (less a b ∧ ¬ same a b ∧ ¬ less b a) ∨
    (¬ less a b ∧ same a b ∧ ¬ less b a) ∨ (¬ less a b ∧ ¬ same a b ∧ less b a)

/-- A strict order is total when its equivalent elements are the same ones. -/
theorem StrictTotal.of_equivalent {same : α → α → Prop} (irrefl : ∀ a, ¬ less a a)
    (trans : ∀ a b c, less a b → less b c → less a c)
    (equivalent : ∀ a b, Equivalent less a b ↔ same a b) : StrictTotal less same := by
  refine ⟨irrefl, trans, fun a b => ?_⟩
  rw [← equivalent]
  by_cases below : less a b
  · exact Or.inl ⟨below, fun same => same.1 below, fun above => irrefl a (trans a b a below above)⟩
  · by_cases above : less b a
    · exact Or.inr (Or.inr ⟨below, fun same => same.2 above, above⟩)
    · exact Or.inr (Or.inl ⟨below, ⟨below, above⟩, above⟩)

/-- Elements that are compared by a key inherit the order of their keys. -/
theorem StrictTotal.comap {β : Type*} {same : α → α → Prop} (total : StrictTotal less same)
    (key : β → α) :
    StrictTotal (fun a b => less (key a) (key b)) (fun a b => same (key a) (key b)) where
  irrefl a := total.irrefl (key a)
  trans a b c := total.trans (key a) (key b) (key c)
  exactlyOne a b := total.exactlyOne (key a) (key b)

/-- Some element of `s` is equivalent to `a`. -/
def Contains (s : OrderedSet less) (a : α) : Prop := ∃ b ∈ s.toList, Equivalent less a b

/-! ## Adding an element -/

section Emplace

variable [DecidableRel less]

instance (a b : α) : Decidable (Equivalent less a b) :=
  inferInstanceAs (Decidable (¬ less a b ∧ ¬ less b a))

instance (s : OrderedSet less) (a : α) : Decidable (s.Contains a) :=
  inferInstanceAs (Decidable (∃ b ∈ s.toList, Equivalent less a b))

/-- Put `a` before the first greater element, unless an equivalent one comes
first. -/
def place (less : α → α → Prop) [DecidableRel less] (a : α) : List α → List α
  | [] => [a]
  | b :: items =>
      if less a b then a :: b :: items
      else if less b a then b :: place less a items
      else b :: items

variable [IsTrans α less] {a c : α} {items : List α}

theorem mem_place (sorted : items.Pairwise less) :
    c ∈ place less a items ↔ c ∈ items ∨ (c = a ∧ ∀ b ∈ items, ¬ Equivalent less a b) := by
  induction items with
  | nil => simp [place]
  | cons b items ih =>
      obtain ⟨head, tail⟩ := List.pairwise_cons.mp sorted
      unfold place
      by_cases below : less a b
      · have apart : ∀ d ∈ b :: items, ¬ Equivalent less a d := by
          intro d member same
          rcases List.mem_cons.mp member with rfl | inTail
          · exact same.1 below
          · exact same.1 (IsTrans.trans _ _ _ below (head d inTail))
        rw [if_pos below, List.mem_cons, and_iff_left apart, or_comm]
      · by_cases above : less b a
        · have apart : ¬ Equivalent less a b := fun same => same.2 above
          rw [if_neg below, if_pos above, List.mem_cons, ih tail, List.forall_mem_cons,
            and_iff_right apart, List.mem_cons, or_assoc]
        · have same : Equivalent less a b := ⟨below, above⟩
          rw [if_neg below, if_neg above, List.forall_mem_cons]
          exact (or_iff_left fun placed => placed.2.1 same).symm

theorem sorted_place (sorted : items.Pairwise less) : (place less a items).Pairwise less := by
  induction items with
  | nil => simp [place]
  | cons b items ih =>
      obtain ⟨head, tail⟩ := List.pairwise_cons.mp sorted
      unfold place
      by_cases below : less a b
      · rw [if_pos below]
        refine .cons (fun d member => ?_) sorted
        rcases List.mem_cons.mp member with rfl | inTail
        · exact below
        · exact IsTrans.trans _ _ _ below (head d inTail)
      · rw [if_neg below]
        by_cases above : less b a
        · rw [if_pos above]
          refine .cons (fun d member => ?_) (ih tail)
          rcases (mem_place tail).mp member with inTail | ⟨rfl, -⟩
          · exact head d inTail
          · exact above
        · rw [if_neg above]
          exact sorted

/-- Add `a` unless an equivalent element is present. -/
def emplace (s : OrderedSet less) (a : α) : OrderedSet less :=
  ⟨place less a s.toList, sorted_place s.sorted⟩

theorem mem_emplace {s : OrderedSet less} :
    c ∈ (s.emplace a).toList ↔ c ∈ s.toList ∨ (c = a ∧ ¬ s.Contains a) := by
  rw [emplace, mem_place s.sorted]
  simp [Contains]

/-- A list that holds an equivalent element stays as it is. -/
theorem place_of_contains (sorted : items.Pairwise less)
    (present : ∃ b ∈ items, Equivalent less a b) : place less a items = items := by
  induction items with
  | nil => simp at present
  | cons b items ih =>
      obtain ⟨head, tail⟩ := List.pairwise_cons.mp sorted
      rcases present with ⟨d, member, same⟩
      unfold place
      by_cases below : less a b
      · rcases List.mem_cons.mp member with rfl | inTail
        · exact (same.1 below).elim
        · exact (same.1 (IsTrans.trans _ _ _ below (head d inTail))).elim
      · rw [if_neg below]
        by_cases above : less b a
        · rw [if_pos above]
          rcases List.mem_cons.mp member with rfl | inTail
          · exact (same.2 above).elim
          · rw [ih tail ⟨d, inTail, same⟩]
        · rw [if_neg above]

/-- Emplacing changes nothing exactly when an equivalent element is present. -/
theorem emplace_eq_self_iff [Std.Irrefl less] {s : OrderedSet less} :
    s.emplace a = s ↔ s.Contains a := by
  constructor
  · intro same
    by_contra absent
    have member : a ∈ (s.emplace a).toList := mem_emplace.mpr (.inr ⟨rfl, absent⟩)
    rw [same] at member
    exact absent ⟨a, member, Std.Irrefl.irrefl a, Std.Irrefl.irrefl a⟩
  · intro present
    exact ext_toList (place_of_contains s.sorted present)

end Emplace

/-! ## Erasing while iterating -/

/-- Visit the elements from position `it` on, erasing an element whose visit
fails and stepping past every other one; at most `fuel` visits. -/
def sweepLoop (fails : α → Bool) : ℕ → List α → ℕ → List α × List (α × Bool)
  | 0, items, _ => (items, [])
  | fuel + 1, items, it =>
      match items[it]? with
      | none => (items, [])
      | some a =>
          if fails a then
            let rest := sweepLoop fails fuel (items.eraseIdx it) it
            (rest.1, (a, false) :: rest.2)
          else
            let rest := sweepLoop fails fuel items (it + 1)
            (rest.1, (a, true) :: rest.2)

section SweepLoop

variable {fails : α → Bool} {items : List α} {it : ℕ} {a : α}

theorem sweepLoop_of_end (fuel : ℕ) (atEnd : items[it]? = none) :
    sweepLoop fails fuel items it = (items, []) := by
  cases fuel with
  | zero => rfl
  | succ fuel => simp only [sweepLoop, atEnd]

theorem sweepLoop_of_fails (fuel : ℕ) (visited : items[it]? = some a) (failed : fails a = true) :
    sweepLoop fails (fuel + 1) items it =
      ((sweepLoop fails fuel (items.eraseIdx it) it).1,
        (a, false) :: (sweepLoop fails fuel (items.eraseIdx it) it).2) := by
  simp only [sweepLoop, visited, failed, if_true]

theorem sweepLoop_of_succeeds (fuel : ℕ) (visited : items[it]? = some a)
    (succeeded : fails a = false) :
    sweepLoop fails (fuel + 1) items it =
      ((sweepLoop fails fuel items (it + 1)).1,
        (a, true) :: (sweepLoop fails fuel items (it + 1)).2) := by
  simp [sweepLoop, visited, succeeded]

end SweepLoop

/-- As many visits as there are elements left reach the end: every element is
visited once, in order, and the failing ones are gone. -/
theorem sweepLoop_eq (fails : α → Bool) (visited todo : List α) (extra : ℕ) :
    sweepLoop fails (todo.length + extra) (visited ++ todo) visited.length =
      (visited ++ todo.filter (fun a => !fails a), todo.map fun a => (a, !fails a)) := by
  induction todo generalizing visited with
  | nil => cases extra <;> simp [sweepLoop]
  | cons a todo ih =>
      have here : (visited ++ a :: todo)[visited.length]? = some a := by simp
      rw [List.length_cons, Nat.add_right_comm]
      cases failed : fails a with
      | true =>
          have shorter : (visited ++ a :: todo).eraseIdx visited.length = visited ++ todo := by
            simp [List.eraseIdx_append_of_length_le]
          rw [sweepLoop_of_fails _ here failed, shorter, ih]
          simp [failed]
      | false =>
          have longer : visited ++ a :: todo = (visited ++ [a]) ++ todo := by simp
          have position : visited.length + 1 = (visited ++ [a]).length := by simp
          rw [sweepLoop_of_succeeds _ here failed, longer, position, ih]
          simp [failed]

theorem sweepLoop_whole (fails : α → Bool) (items : List α) :
    sweepLoop fails items.length items 0 =
      (items.filter (fun a => !fails a), items.map fun a => (a, !fails a)) := by
  simpa using sweepLoop_eq fails [] items 0

/-- The loop over the whole set: what is left of it, and every visit with
whether it succeeded. -/
def sweep (fails : α → Bool) (s : OrderedSet less) : OrderedSet less × List (α × Bool) :=
  let swept := sweepLoop fails s.toList.length s.toList 0
  (⟨swept.1, by
    simp only [swept, sweepLoop_whole]
    exact s.sorted.filter _⟩, swept.2)

theorem sweep_remaining (fails : α → Bool) (s : OrderedSet less) :
    (s.sweep fails).1.toList = s.toList.filter fun a => !fails a := by
  simp only [sweep, sweepLoop_whole]

theorem sweep_visits (fails : α → Bool) (s : OrderedSet less) :
    (s.sweep fails).2 = s.toList.map fun a => (a, !fails a) := by
  simp only [sweep, sweepLoop_whole]

/-- Drop the element at position `it`. -/
def eraseAt (s : OrderedSet less) (it : ℕ) : OrderedSet less :=
  ⟨s.toList.eraseIdx it, s.sorted.sublist (List.eraseIdx_sublist _ _)⟩

end OrderedSet
