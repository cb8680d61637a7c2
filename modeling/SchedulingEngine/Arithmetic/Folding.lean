import Mathlib.Data.Finset.Fold
import Mathlib.Data.Finset.Range
import Mathlib.Data.Multiset.Fold

/-!
# Folding a commutative operation

Counters that several threads keep in slots of their own are read back by folding an operation
over the slots. Adding to one slot adds to the fold, whatever the operation, as long as it is
commutative and associative: addition modulo a power of two or exclusive or.
-/

namespace Folding

variable {α β : Type*} {op : β → β → β} [Std.Commutative op] [Std.Associative op]

/-- Adding to one slot adds to the fold over all of them. -/
theorem fold_update [DecidableEq α] {s : Finset α} {j : α} (hj : j ∈ s) (f : α → β) (b v : β) :
    s.fold op b (Function.update f j (op (f j) v)) = op (s.fold op b f) v := by
  have hrest : (s.erase j).fold op b (Function.update f j (op (f j) v)) = (s.erase j).fold op b f :=
    Finset.fold_congr fun i hi => Function.update_of_ne (Finset.ne_of_mem_erase hi) _ _
  have hsplit : ∀ g : α → β, s.fold op b g = op (g j) ((s.erase j).fold op b g) := by
    intro g
    conv_lhs => rw [← Finset.insert_erase hj]
    exact Finset.fold_insert (Finset.notMem_erase j s)
  have hassoc : ∀ x y z, op (op x y) z = op x (op y z) := Std.Associative.assoc
  have hcomm : ∀ x y, op x y = op y x := Std.Commutative.comm
  rw [hsplit, hsplit f, hrest, Function.update_self, hassoc, hassoc, hcomm v]

theorem fold_range_succ (n : ℕ) (f : ℕ → β) (b : β) :
    (Finset.range (n + 1)).fold op b f = op ((Finset.range n).fold op b f) (f n) := by
  rw [Finset.range_add_one, Finset.fold_insert Finset.notMem_range_self]
  exact Std.Commutative.comm _ _

/-- The fold of what a bag of events contributes. -/
def foldMap (op : β → β → β) [Std.Commutative op] [Std.Associative op] (b : β) (w : α → β)
    (A : Multiset α) : β :=
  (A.map w).fold op b

theorem foldMap_add_singleton (b : β) (w : α → β) (A : Multiset α) (a : α) :
    foldMap op b w (A + {a}) = op (foldMap op b w A) (w a) := by
  unfold foldMap
  rw [Multiset.map_add, Multiset.map_singleton, Multiset.add_comm, Multiset.singleton_add,
    Multiset.fold_cons_left]
  exact Std.Commutative.comm _ _

/-- A counting loop folds over the bag of its indices. -/
theorem foldl_range_eq (n : ℕ) (f : ℕ → α) (w : α → β) (b : β) :
    (List.range n).foldl (fun x i => op x (w (f i))) b
      = foldMap op b w ((List.range n).map f : List α) := by
  unfold foldMap
  rw [Multiset.map_coe, Multiset.coe_fold_l, List.map_map, List.foldl_map]
  rfl

end Folding
