/-!
# Iteration

`iterate f n x` applies `f` to `x` as often as `n` says. Powers are defined by it, and their counts
run up to `2 ^ 31`, so it stops as soon as two steps lead back to where they began: from there the
values alternate, and the parity of what is left decides. `iterate_eq` says that this changes no
result.
-/

namespace Metrology

/-- The `n`-fold application of `f`, cut short where the values start to alternate. -/
@[specialize]
def iterate {α : Type} [DecidableEq α] (f : α → α) : Nat → α → α
  | 0, x => x
  | 1, x => f x
  | n + 2, x =>
    let y := f (f x)
    if y = x then (if n % 2 = 0 then x else f x) else iterate f n y

theorem repeat_comm {α : Type} (f : α → α) (n : Nat) (x : α) :
    Nat.repeat f n (f x) = f (Nat.repeat f n x) := by
  induction n with
  | zero => rfl
  | succ n ih => exact congrArg f ih

/-- Where two steps lead back, only the parity of the count matters. -/
theorem repeat_alternating {α : Type} {f : α → α} {x : α} (back : f (f x) = x) (n : Nat) :
    Nat.repeat f n x = if n % 2 = 0 then x else f x := by
  induction n with
  | zero => rfl
  | succ n ih =>
    show f (Nat.repeat f n x) = _
    rw [ih]
    split
    · rw [if_neg (by omega)]
    · rw [if_pos (by omega), back]

theorem iterate_eq {α : Type} [DecidableEq α] (f : α → α) (n : Nat) (x : α) :
    iterate f n x = Nat.repeat f n x := by
  fun_induction iterate f n x with
  | case1 x => rfl
  | case2 x => rfl
  | case3 n x y back even =>
    rw [repeat_alternating back, if_pos (by omega)]
  | case4 n x y back odd =>
    rw [repeat_alternating back, if_neg (by omega)]
  | case5 n x y _ ih =>
    rw [ih]
    show Nat.repeat f n (f (f x)) = f (f (Nat.repeat f n x))
    rw [repeat_comm, repeat_comm]

end Metrology
