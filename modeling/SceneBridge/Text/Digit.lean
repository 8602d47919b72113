/-!
# Digits

What a digit is worth.
-/

namespace SceneBridge.Text

/-- The value of a hexadecimal digit, in either case. -/
def hexDigit? (c : Char) : Option Nat :=
  if '0' ≤ c && c ≤ '9' then some (c.toNat - 48)
  else if 'a' ≤ c && c ≤ 'f' then some (c.toNat - 87)
  else if 'A' ≤ c && c ≤ 'F' then some (c.toNat - 55)
  else none

theorem hexDigit?_lt {c : Char} {n : Nat} (h : hexDigit? c = some n) : n < 16 := by
  have toNat_le {a b : Char} (hab : a ≤ b) : a.toNat ≤ b.toNat := hab
  simp only [hexDigit?, Bool.and_eq_true, decide_eq_true_eq] at h
  split at h
  · next hc =>
    have := toNat_le hc.2
    simp only [Option.some.injEq] at h
    simp at this
    omega
  split at h
  · next hc =>
    have := toNat_le hc.2
    simp only [Option.some.injEq] at h
    simp at this
    omega
  split at h
  · next hc =>
    have := toNat_le hc.2
    simp only [Option.some.injEq] at h
    simp at this
    omega
  · simp at h

def numberOf (base : Nat) (ds : List Char) : Nat :=
  ds.foldl (fun n d => n * base + (hexDigit? d).getD 0) 0

end SceneBridge.Text
