/-!
The weight of a list: what its elements weigh together.
-/

namespace TwoTier

variable {α β : Type}

/-- The weights of the elements, added up. -/
def weigh (f : α → Nat) : List α → Nat
  | [] => 0
  | a :: as => f a + weigh f as

@[simp] theorem weigh_nil (f : α → Nat) : weigh f [] = 0 := rfl

@[simp] theorem weigh_cons (f : α → Nat) (a : α) (as : List α) :
    weigh f (a :: as) = f a + weigh f as := rfl

@[simp] theorem weigh_append (f : α → Nat) (as bs : List α) :
    weigh f (as ++ bs) = weigh f as + weigh f bs := by
  induction as with
  | nil => simp
  | cons a as ih => simp [ih, Nat.add_assoc]

@[simp] theorem weigh_map (f : β → Nat) (g : α → β) (as : List α) :
    weigh f (as.map g) = weigh (fun a => f (g a)) as := by
  induction as with
  | nil => rfl
  | cons a as ih => simp [ih]

end TwoTier
