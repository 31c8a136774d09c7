/-
Comparison of integers.

Integers compare as the doubles that they are converted to, so a comparison answers for what the doubles hold
(`compare_int`). Up to `2 ^ 53` that is the integers themselves. Beyond, two of them that are rounded to the same are
taken for equal, and nothing else goes wrong: the order is never turned, and a list has an item that is not in it only
when an item is rounded to the same (`integer_comparison`). The items of two lists, on the other hand, are compared as
integers (`neighbours_equal`).

- `number?_int`: the double that an integer compares as.
- `equal_int`, `order?_int`, `compare_int`: the comparisons of two integers.
- `relates_rounded_iff`, `relates_of_rounded`: when they are right, and which of them always are.
- `holds_ints`, `holds_ints_iff`: the search in a list of integers, and when it is right.
-/
import Templating.Expr.Eval
import Templating.Proofs.IntegerDoubles

namespace Templating

open Double

/-- the relation of two integers that a comparison stands for; there are no integers in an integer -/
def Expr.Comparison.relates : Comparison → Int → Int → Bool
  | .equal, a, b => a = b
  | .notEqual, a, b => a ≠ b
  | .less, a, b => a < b
  | .lessEqual, a, b => a ≤ b
  | .greater, a, b => a > b
  | .greaterEqual, a, b => a ≥ b
  | .isIn, _, _ => false

/-- the comparisons of which one is the case -/
def Expr.Comparison.threeWay : List Comparison :=
  [.less, .equal, .greater]

namespace Value

/-- what the double of a 64-bit integer holds -/
def rounded (a : Int64) : Int :=
  held a.toInt

/-- the two are not rounded to the same unless they are the same -/
def Apart (a b : Int64) : Prop :=
  rounded a = rounded b → a = b

theorem natAbs_toInt_le (a : Int64) : a.toInt.natAbs ≤ 2 ^ 63 := by
  have := a.le_toInt
  have := a.toInt_lt
  omega

/-- the double that an integer compares as -/
theorem number?_int (a : Int64) : ∃ x, (int a).number? = some x ∧ Holds x.toModel.unpack (rounded a) := by
  have hbelow : a.toInt.natAbs < 2 ^ 64 := (natAbs_toInt_le a).trans_lt (by decide)
  have hlog : a.toInt.natAbs.log2 < 1023 := (log2_le_of_lt hbelow).trans_lt (by decide)
  exact ⟨_, rfl, holds_ofInt hlog⟩

theorem equal_int (a b : Int64) : (int a).equal (int b) = decide (rounded a = rounded b) := by
  obtain ⟨x, hx, hholds⟩ := number?_int a
  obtain ⟨y, hy, hholds'⟩ := number?_int b
  rw [equal, hx, hy]
  exact hholds.beq hholds'

theorem order?_int (a b : Int64) : (int a).order? (int b) = some (Ord.compare (rounded a) (rounded b)) := by
  obtain ⟨x, hx, hholds⟩ := number?_int a
  obtain ⟨y, hy, hholds'⟩ := number?_int b
  have hless := hholds.lt hholds'
  have hequal := hholds.beq hholds'
  have hgreater := hholds'.lt hholds
  rw [order?, hx, hy]
  show orderNumbers x y = _
  rw [orderNumbers]
  rcases Int.lt_trichotomy (rounded a) (rounded b) with hlt | heq | hgt
  · rw [if_pos (hless.2 hlt), Int.compare_eq_lt.2 hlt]
  · rw [if_neg (fun h => (hless.1 h).ne heq), if_pos (by rw [hequal]; exact decide_eq_true heq),
      Int.compare_eq_eq.2 heq]
  · rw [if_neg (fun h => (hless.1 h).not_gt hgt), if_neg (by rw [hequal]; simpa using hgt.ne'),
      if_pos (hgreater.2 hgt), Int.compare_eq_gt.2 hgt]

/-- **A comparison of two integers** answers for what their doubles hold. -/
theorem compare_int (op : Expr.Comparison) (a b : Int64) :
    Value.compare op (int a) (int b) = .ok (op.relates (rounded a) (rounded b)) := by
  cases op with
  | equal => rw [Value.compare, equal_int, Expr.Comparison.relates]
  | notEqual => rw [Value.compare, equal_int, Expr.Comparison.relates, decide_not]
  | isIn => rfl
  | less | lessEqual | greater | greaterEqual =>
    simp only [Value.compare, order?_int, Expr.Comparison.relates]
    congr 1
    rw [Bool.eq_iff_iff]
    simp [Int.compare_eq_lt, Int.compare_eq_gt]

/-- what a list of integers has -/
theorem holds_ints (items : List Int64) (a : Int64) :
    (list (items.map int)).holds (int a) = decide (∃ b ∈ items, rounded b = rounded a) := by
  rw [holds, List.any_map, Bool.eq_iff_iff, List.any_eq_true, decide_eq_true_iff]
  simp only [Function.comp_apply, equal_int, decide_eq_true_iff]

/-! ## When the comparisons are right -/

theorem apart_of_le {a b : Int64} (ha : a.toInt.natAbs ≤ 2 ^ 53) (hb : b.toInt.natAbs ≤ 2 ^ 53) : Apart a b := by
  intro h
  rw [rounded, rounded, held_of_le ha, held_of_le hb] at h
  exact Int64.toInt_inj.1 h

theorem apart_of_far {a b : Int64} (h : 1024 < (a.toInt - b.toInt).natAbs) : Apart a b := by
  intro hsame
  have ha := held_close (natAbs_toInt_le a)
  have hb := held_close (natAbs_toInt_le b)
  rw [rounded, rounded] at hsame
  omega

/-- **Which comparisons are right**: all of them, unless the two integers are rounded to the same. -/
theorem relates_rounded_iff (a b : Int64) :
    (∀ op : Expr.Comparison, op.relates (rounded a) (rounded b) = op.relates a.toInt b.toInt) ↔ Apart a b := by
  constructor
  · intro h hsame
    have hequal := h .equal
    simp only [Expr.Comparison.relates, hsame, decide_true] at hequal
    exact Int64.toInt_inj.1 (of_decide_eq_true hequal.symm)
  · intro hapart op
    have hequal : rounded a = rounded b ↔ a.toInt = b.toInt :=
      ⟨fun h => congrArg Int64.toInt (hapart h), fun h => congrArg held h⟩
    have hle : rounded a ≤ rounded b ↔ a.toInt ≤ b.toInt := by
      refine ⟨fun h => ?_, held_mono⟩
      rcases Int.le_total a.toInt b.toInt with hab | hba
      · exact hab
      · exact (hequal.1 (le_antisymm h (held_mono hba))).le
    cases op <;> simp only [Expr.Comparison.relates, decide_eq_decide] <;> omega

/-- a strict answer is never wrong: rounding does not turn the order -/
theorem relates_of_rounded {a b : Int64} {op : Expr.Comparison} (hop : op ∈ [.less, .greater, .notEqual])
    (h : op.relates (rounded a) (rounded b)) : op.relates a.toInt b.toInt := by
  have hmono : a.toInt ≤ b.toInt → rounded a ≤ rounded b := held_mono
  have hmono' : b.toInt ≤ a.toInt → rounded b ≤ rounded a := held_mono
  simp only [List.mem_cons, List.not_mem_nil, or_false] at hop
  rcases hop with rfl | rfl | rfl
  all_goals
    simp only [Expr.Comparison.relates, decide_eq_true_iff] at h ⊢
    omega

/-- a list of integers is searched right, unless an item is rounded like an integer that it does not have -/
theorem holds_ints_iff (items : List Int64) (a : Int64) :
    (list (items.map int)).holds (int a) = decide (a ∈ items) ↔
      ((∃ b ∈ items, rounded b = rounded a) → a ∈ items) := by
  have hfound : a ∈ items → ∃ b ∈ items, rounded b = rounded a := fun h => ⟨a, h, rfl⟩
  rw [holds_ints, decide_eq_decide]
  exact ⟨Iff.mp, fun h => ⟨h, hfound⟩⟩

/-- of less, equal and greater one is the case -/
theorem relates_threeWay (v w : Int) : ∃ op ∈ Expr.Comparison.threeWay,
    ∀ other ∈ Expr.Comparison.threeWay, other.relates v w = decide (other = op) := by
  rcases Int.lt_trichotomy v w with hlt | heq | hgt
  · refine ⟨.less, by decide, ?_⟩
    simp [Expr.Comparison.threeWay, Expr.Comparison.relates, hlt, hlt.ne, hlt.le]
  · refine ⟨.equal, by decide, ?_⟩
    simp [Expr.Comparison.threeWay, Expr.Comparison.relates, heq]
  · refine ⟨.greater, by decide, ?_⟩
    simp [Expr.Comparison.threeWay, Expr.Comparison.relates, hgt, hgt.ne', hgt.le]

end Value

namespace Expr

open Value (rounded Apart)

variable {scope : Scope} {l r hay : Expr} {a b : Int64} {items : List Int64}

theorem eval_compare_int (hl : l.eval scope = .ok (.int a)) (hr : r.eval scope = .ok (.int b)) (op : Comparison) :
    (compare op l r).eval scope = .ok (.bool (op.relates (rounded a) (rounded b))) := by
  rw [eval, hl, hr]
  exact congrArg (fun outcome => outcome >>= fun yes => .ok (Value.bool yes)) (Value.compare_int op a b)

theorem eval_in_list {values : List Value} (hl : l.eval scope = .ok (.int a))
    (hhay : hay.eval scope = .ok (.list values)) :
    (compare .isIn l hay).eval scope = .ok (.bool ((Value.list values).holds (.int a))) := by
  rw [eval, hl, hhay]
  rfl

/-- **Integers in expressions.** They compare as what their doubles hold. All comparisons of two integers are right
exactly when the two are not rounded to the same, so they are up to `2 ^ 53` and for integers far from each other. One
of less, equal and greater is answered with yes, and less, greater and not equal rightly so. -/
theorem integer_comparison (hl : l.eval scope = .ok (.int a)) (hr : r.eval scope = .ok (.int b))
    (hhay : hay.eval scope = .ok (.list (items.map .int))) :
    (∀ op, (compare op l r).eval scope = .ok (.bool (op.relates (rounded a) (rounded b)))) ∧
    ((∀ op, (compare op l r).eval scope = .ok (.bool (op.relates a.toInt b.toInt))) ↔ Apart a b) ∧
    (a.toInt.natAbs ≤ 2 ^ 53 ∧ b.toInt.natAbs ≤ 2 ^ 53 ∨ 1024 < (a.toInt - b.toInt).natAbs → Apart a b) ∧
    (∃ op ∈ Comparison.threeWay, ∀ other ∈ Comparison.threeWay,
      (compare other l r).eval scope = .ok (.bool (decide (other = op)))) ∧
    (∀ op ∈ [Comparison.less, .greater, .notEqual],
      (compare op l r).eval scope = .ok (.bool true) → op.relates a.toInt b.toInt) ∧
    (compare .isIn l hay).eval scope = .ok (.bool (decide (∃ c ∈ items, rounded c = rounded a))) ∧
    ((compare .isIn l hay).eval scope = .ok (.bool (decide (a ∈ items))) ↔
      ((∃ c ∈ items, rounded c = rounded a) → a ∈ items)) := by
  simp only [eval_compare_int hl hr, eval_in_list hl hhay, Except.ok.injEq, Value.bool.injEq]
  refine ⟨fun _ => trivial, Value.relates_rounded_iff a b, ?_, Value.relates_threeWay _ _, ?_, Value.holds_ints items a,
    Value.holds_ints_iff items a⟩
  · rintro (⟨ha, hb⟩ | hfar)
    · exact Value.apart_of_le ha hb
    · exact Value.apart_of_far hfar
  · exact fun op hop => Value.relates_of_rounded hop

/-- two integers beyond `2 ^ 53` that are far from each other, and a list of both -/
theorem integer_comparison_far :
    let l := literal (.int 9007199254740993)
    let r := literal (.int 9007199254742018)
    (compare .equal l r).eval default = .ok (.bool false) ∧ (compare .less l r).eval default = .ok (.bool true) ∧
      (compare .isIn l (list [r, l])).eval default = .ok (.bool true) := by
  intro l r
  have hhay : (list [r, l]).eval default = .ok (.list (List.map .int [9007199254742018, 9007199254740993])) := rfl
  obtain ⟨-, hright, hapart, -, -, -, hlist⟩ := integer_comparison (l := l) (r := r) rfl rfl hhay
  have hall := hright.2 (hapart (.inr (by decide)))
  exact ⟨hall .equal, hall .less, hlist.2 fun _ => by decide⟩

/-- two neighbours that are taken for equal, and two lists of them that are not -/
theorem neighbours_equal :
    let l := literal (.int 9007199254740992)
    let r := literal (.int 9007199254740993)
    (compare .equal l r).eval default = .ok (.bool true) ∧ (compare .less l r).eval default = .ok (.bool false) ∧
      (compare .isIn l (list [r])).eval default = .ok (.bool true) ∧
      (compare .equal (list [l]) (list [r])).eval default = .ok (.bool false) := by
  intro l r
  have hrounded : rounded 9007199254740992 = rounded 9007199254740993 := by decide +kernel
  refine ⟨?_, ?_, ?_, rfl⟩
  · rw [eval_compare_int rfl rfl, Comparison.relates, hrounded]
    simp
  · rw [eval_compare_int rfl rfl, Comparison.relates, hrounded]
    simp
  · have hhay : (list [r]).eval default = .ok (.list (List.map .int [9007199254740993])) := rfl
    rw [eval_in_list rfl hhay, Value.holds_ints]
    simp [hrounded]

end Expr

end Templating
