/-!
Counting that stops at the largest number of 64 bits.
-/

namespace QueryTariff.Saturating

/-- The largest number of 64 bits. -/
def ceiling : Nat := 0xFFFFFFFFFFFFFFFF

def clamp (n : Nat) : Nat := min n ceiling

def add (a b : Nat) : Nat := clamp (a + b)

def mul (a b : Nat) : Nat := clamp (a * b)

theorem clamp_le_clamp {m n : Nat} (h : m ≤ n) : clamp m ≤ clamp n := by
  simp only [clamp]
  omega

@[simp] theorem clamp_clamp (n : Nat) : clamp (clamp n) = clamp n := by simp [clamp]

/-- Clamping a summand first makes no difference to a clamped sum. -/
@[simp] theorem add_clamp_left (a b : Nat) : add (clamp a) b = add a b := by
  simp only [add, clamp]
  omega

@[simp] theorem add_clamp_right (a b : Nat) : add a (clamp b) = add a b := by
  simp only [add, clamp]
  omega

theorem add_comm (a b : Nat) : add a b = add b a := by rw [add, add, Nat.add_comm]

theorem add_assoc (a b c : Nat) : add (add a b) c = add a (add b c) := by
  simp only [add, clamp]
  omega

theorem mul_comm (a b : Nat) : mul a b = mul b a := by rw [mul, mul, Nat.mul_comm]

/-- Clamping a factor first makes no difference to a clamped product. -/
@[simp] theorem mul_clamp_left (a b : Nat) : mul (clamp a) b = mul a b := by
  rcases Nat.eq_zero_or_pos b with rfl | hb
  · simp [mul]
  · by_cases h : a ≤ ceiling
    · rw [clamp, Nat.min_eq_left h]
    · have h₁ : ceiling ≤ a := by omega
      have h₂ : ceiling ≤ ceiling * b := Nat.le_mul_of_pos_right _ hb
      have h₃ : ceiling ≤ a * b := Nat.le_trans h₁ (Nat.le_mul_of_pos_right _ hb)
      rw [clamp, Nat.min_eq_right h₁, mul, mul, clamp, clamp, Nat.min_eq_right h₂,
        Nat.min_eq_right h₃]

@[simp] theorem mul_clamp_right (a b : Nat) : mul a (clamp b) = mul a b := by
  rw [mul_comm, mul_clamp_left, mul_comm]

theorem add_le_add {a b c d : Nat} (h₁ : a ≤ c) (h₂ : b ≤ d) : add a b ≤ add c d := by
  simp only [add, clamp]
  omega

theorem mul_le_mul {a b c d : Nat} (h₁ : a ≤ c) (h₂ : b ≤ d) : mul a b ≤ mul c d := by
  have := Nat.mul_le_mul h₁ h₂
  simp only [mul, clamp]
  omega

end QueryTariff.Saturating
