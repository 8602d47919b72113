/-!
# Two words in one

A 64-bit word is a low and a high 32-bit word. Splitting and joining are inverse to each other.
-/

namespace SceneBridge.WordPair

def low (x : UInt64) : UInt32 := UInt32.ofNat (x.toNat % UInt32.size)

def high (x : UInt64) : UInt32 := UInt32.ofNat (x.toNat / UInt32.size)

def join (low high : UInt32) : UInt64 := UInt64.ofNat (high.toNat * UInt32.size + low.toNat)

theorem toNat_join (l h : UInt32) : (join l h).toNat = h.toNat * UInt32.size + l.toNat := by
  have hl := l.toNat_lt_size
  have hh := h.toNat_lt_size
  rw [join, UInt64.toNat_ofNat']
  simp only [UInt32.size] at hl hh ⊢
  omega

@[simp] theorem low_join (l h : UInt32) : low (join l h) = l := by
  have : (h.toNat * UInt32.size + l.toNat) % UInt32.size = l.toNat := by
    rw [Nat.mul_add_mod_self_right, Nat.mod_eq_of_lt l.toNat_lt_size]
  rw [low, toNat_join, this, UInt32.ofNat_toNat]

@[simp] theorem high_join (l h : UInt32) : high (join l h) = h := by
  have hl := l.toNat_lt_size
  have : (h.toNat * UInt32.size + l.toNat) / UInt32.size = h.toNat := by
    simp only [UInt32.size] at hl ⊢
    omega
  rw [high, toNat_join, this, UInt32.ofNat_toNat]

@[simp] theorem join_low_high (x : UInt64) : join (low x) (high x) = x := by
  have hx := x.toNat_lt
  apply UInt64.toNat_inj.mp
  rw [toNat_join]
  simp only [low, high, UInt32.toNat_ofNat', UInt32.size]
  omega

end SceneBridge.WordPair
