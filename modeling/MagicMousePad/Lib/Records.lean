import Mathlib.Data.List.Sort
import Mathlib.Order.MinMax
import Mathlib.Data.List.ReduceOption

/-!
# Strict left-to-right maxima

`scan key level items` walks through `items` with a level that starts at
`level`; an item is kept when its key is above the level, and the level then
rises to that key.  The kept items are exactly the records: those whose key is
above the initial level and above the key of every earlier item.
-/

namespace Records

variable {α β : Type*} [LinearOrder α] {key : β → α} {level : α} {b c : β} {items : List β} {i : ℕ}

/-- Keep every item whose key is above the level reached so far. -/
def scan (key : β → α) : α → List β → List (Option β)
  | _, [] => []
  | level, b :: items =>
      if level < key b then some b :: scan key (key b) items
      else none :: scan key level items

/-- The level after all items. -/
def peak (key : β → α) (level : α) (items : List β) : α :=
  (items.map key).foldl max level

/-- The kept items alone. -/
def records (key : β → α) (level : α) (items : List β) : List β :=
  (scan key level items).reduceOption

/-- The item at position `i` is above the initial level and above all items
before it. -/
def IsRecord (key : β → α) (level : α) (items : List β) (i : ℕ) (b : β) : Prop :=
  items[i]? = some b ∧ level < key b ∧ ∀ c ∈ items.take i, key c < key b

/-! ## The scan finds the records -/

@[simp] theorem scan_nil : scan key level [] = [] := rfl

theorem scan_cons_of_lt (above : level < key b) :
    scan key level (b :: items) = some b :: scan key (key b) items := by
  rw [scan, if_pos above]

theorem scan_cons_of_not_lt (below : ¬ level < key b) :
    scan key level (b :: items) = none :: scan key level items := by
  rw [scan, if_neg below]

@[simp] theorem peak_nil : peak key level [] = level := rfl

@[simp] theorem peak_cons : peak key level (b :: items) = peak key (max level (key b)) items := rfl

theorem isRecord_zero : IsRecord key level (b :: items) 0 c ↔ c = b ∧ level < key b := by
  constructor
  · intro record
    rcases record with ⟨at0, above, -⟩
    have same : b = c := by simpa using at0
    exact ⟨same.symm, same ▸ above⟩
  · intro here
    rcases here with ⟨rfl, above⟩
    exact ⟨rfl, above, by simp⟩

theorem isRecord_succ :
    IsRecord key level (b :: items) (i + 1) c ↔
      IsRecord key (max level (key b)) items i c := by
  simp only [IsRecord, List.getElem?_cons_succ, List.take_succ_cons, List.forall_mem_cons,
    max_lt_iff]
  tauto

/-- The scan keeps an item exactly when it is a record. -/
theorem scan_eq_some_iff : (scan key level items)[i]? = some (some c) ↔
    IsRecord key level items i c := by
  induction items generalizing level i with
  | nil => simp [IsRecord]
  | cons b items ih =>
      by_cases above : level < key b
      · rw [scan_cons_of_lt above]
        cases i with
        | zero => simp [isRecord_zero, above, eq_comm]
        | succ i => rw [List.getElem?_cons_succ, ih, isRecord_succ, max_eq_right above.le]
      · rw [scan_cons_of_not_lt above]
        cases i with
        | zero => simp [isRecord_zero, above]
        | succ i => rw [List.getElem?_cons_succ, ih, isRecord_succ, max_eq_left (not_lt.mp above)]

/-! ## The kept items -/

@[simp] theorem records_nil : records key level [] = [] := rfl

theorem records_cons_of_lt (above : level < key b) :
    records key level (b :: items) = b :: records key (key b) items := by
  rw [records, scan_cons_of_lt above, List.reduceOption_cons_of_some, records]

theorem records_cons_of_not_lt (below : ¬ level < key b) :
    records key level (b :: items) = records key level items := by
  rw [records, scan_cons_of_not_lt below, List.reduceOption_cons_of_none, records]

theorem level_lt_of_mem_records (member : b ∈ records key level items) : level < key b := by
  induction items generalizing level with
  | nil => simp at member
  | cons a items ih =>
      by_cases above : level < key a
      · rw [records_cons_of_lt above] at member
        rcases List.mem_cons.mp member with rfl | inTail
        · exact above
        · exact above.trans (ih inTail)
      · rw [records_cons_of_not_lt above] at member
        exact ih member

/-- The keys of the kept items strictly increase. -/
theorem records_pairwise :
    (records key level items).Pairwise fun a b => key a < key b := by
  induction items generalizing level with
  | nil => simp
  | cons a items ih =>
      by_cases above : level < key a
      · rw [records_cons_of_lt above]
        exact .cons (fun b member => level_lt_of_mem_records member) ih
      · rw [records_cons_of_not_lt above]
        exact ih

/-! ## The level reached -/

theorem peak_le_iff {bound : α} :
    peak key level items ≤ bound ↔ level ≤ bound ∧ ∀ b ∈ items, key b ≤ bound := by
  induction items generalizing level with
  | nil => simp
  | cons b items ih => rw [peak_cons, ih, max_le_iff, List.forall_mem_cons, and_assoc]

theorem peak_lt_iff {bound : α} :
    peak key level items < bound ↔ level < bound ∧ ∀ b ∈ items, key b < bound := by
  induction items generalizing level with
  | nil => simp
  | cons b items ih => rw [peak_cons, ih, max_lt_iff, List.forall_mem_cons, and_assoc]

/-- The level reached depends only on which keys occur. -/
theorem peak_congr {items' : List β} (same : ∀ k, k ∈ items.map key ↔ k ∈ items'.map key) :
    peak key level items = peak key level items' := by
  refine eq_of_forall_ge_iff fun bound => ?_
  rw [peak_le_iff, peak_le_iff]
  have bounded : (∀ k ∈ items.map key, k ≤ bound) ↔ ∀ k ∈ items'.map key, k ≤ bound :=
    forall_congr' fun k => imp_congr (same k) Iff.rfl
  rw [List.forall_mem_map, List.forall_mem_map] at bounded
  rw [bounded]

theorem le_peak (member : b ∈ items) : key b ≤ peak key level items :=
  (peak_le_iff.mp (le_refl _)).2 b member

/-- The level reached is the key of the last record, if there is one. -/
theorem peak_eq_getLast? :
    peak key level items = ((records key level items).getLast?.map key).getD level := by
  induction items generalizing level with
  | nil => rfl
  | cons a items ih =>
      rw [peak_cons]
      by_cases above : level < key a
      · rw [records_cons_of_lt above, max_eq_right above.le, ih, List.getLast?_cons]
        cases (records key (key a) items).getLast? <;> rfl
      · rw [records_cons_of_not_lt above, max_eq_left (not_lt.mp above), ih]

theorem records_sublist : (records key level items).Sublist items := by
  induction items generalizing level with
  | nil => exact .slnil
  | cons a items ih =>
      by_cases above : level < key a
      · rw [records_cons_of_lt above]
        exact ih.cons_cons a
      · rw [records_cons_of_not_lt above]
        exact ih.cons a

/-- The last record is above the initial level, and no item is above it. -/
theorem of_getLast? (last : (records key level items).getLast? = some b) :
    b ∈ items ∧ level < key b ∧ ∀ c ∈ items, key c ≤ key b := by
  have reached : peak key level items = key b := by rw [peak_eq_getLast?, last]; rfl
  have member : b ∈ records key level items := List.mem_of_getLast? last
  exact ⟨records_sublist.subset member, level_lt_of_mem_records member,
    fun c inItems => reached ▸ le_peak inItems⟩

/-- The last record has the key of the greatest item above the initial level. -/
theorem exists_getLast? (member : b ∈ items) (above : level < key b)
    (top : ∀ c ∈ items, key c ≤ key b) :
    ∃ c ∈ items, (records key level items).getLast? = some c ∧ key c = key b := by
  have reached : peak key level items = key b :=
    le_antisymm (peak_le_iff.mpr ⟨above.le, top⟩) (le_peak member)
  rw [peak_eq_getLast?] at reached
  cases last : (records key level items).getLast? with
  | none =>
      rw [last] at reached
      exact absurd reached above.ne
  | some c =>
      rw [last] at reached
      exact ⟨c, (of_getLast? last).1, rfl, reached⟩

/-! ## Common items of two increasing lists -/

/-- Two lists with strictly increasing keys hold their common items in the same
order. -/
theorem filter_mem_comm [DecidableEq β] {first second : List β}
    (increasing : first.Pairwise fun a b => key a < key b)
    (increasing' : second.Pairwise fun a b => key a < key b) :
    first.filter (· ∈ second) = second.filter (· ∈ first) := by
  have irrefl : Std.Irrefl fun a b : β => key a < key b := ⟨fun a => lt_irrefl (key a)⟩
  have antisymm : Std.Antisymm fun a b : β => key a < key b :=
    ⟨fun _ _ less greater => (lt_asymm less greater).elim⟩
  refine List.Pairwise.eq_of_mem_iff (increasing.filter _) (increasing'.filter _) fun b => ?_
  simp [and_comm]

/-! ## Items at increasing positions -/

/-- Items at increasing positions of a list are a sublist of it. -/
theorem map_sublist_drop {γ : Type*} {position : γ → ℕ} {item : γ → β} {list : List β}
    {chosen : List γ} (placed : ∀ g ∈ chosen, list[position g]? = some (item g))
    (increasing : chosen.Pairwise fun g g' => position g < position g') {n : ℕ}
    (beyond : ∀ g ∈ chosen, n ≤ position g) : (chosen.map item).Sublist (list.drop n) := by
  induction chosen generalizing n with
  | nil => exact List.nil_sublist _
  | cons g chosen ih =>
      obtain ⟨above, increasing'⟩ := List.pairwise_cons.mp increasing
      rw [List.forall_mem_cons] at placed beyond
      obtain ⟨inside, here⟩ := List.getElem?_eq_some_iff.mp placed.1
      have rest := ih placed.2 increasing' (n := position g + 1) fun g' member => above g' member
      have whole : ((g :: chosen).map item).Sublist (list.drop (position g)) := by
        rw [List.drop_eq_getElem_cons inside, here]
        exact rest.cons_cons _
      exact whole.trans (List.drop_sublist_drop_left list beyond.1)

end Records
