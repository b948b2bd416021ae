import Mathlib.Data.List.Basic
import Mathlib.Data.UInt
import Mathlib.Tactic.Ring

/-!
# IPv4 Addresses and Nets

The address arithmetic the bridge network rests on: an address is a `u32`,
a net is an address with a prefix length, and the addresses it contains run
from its network address to its broadcast address.

A net keeps the address it was built with; `trunc` clears the host bits. Two
nets of one prefix length are aligned to the same grid, so they are equal or
disjoint, and `disjoint_of_network_ne` is the fact that keeps the subnets of
two bridges apart. `dotted` is the textual form the pool reservations are
keyed by, and `dotted_injective` says the text still names the address.

## Main definitions

* `Ipv4Addr`: An address, as its 32 bits.
* `Ipv4Net`: An address with a prefix length.
* `Ipv4Net.size`: How many addresses the net spans.
* `Ipv4Net.network`: The lowest address of the net.
* `Ipv4Net.broadcast`: The highest address of the net.
* `Ipv4Net.trunc`: The net with its host bits cleared.
* `Ipv4Net.Contains`: An address lies in the net.
* `checkedAdd`, `saturatingAdd`: `u32` addition that does not wrap.
* `dotted`: The dotted-quad text of an address.
* `Ipv4Net.text`: The CIDR text of a net.

## Theorems

* `network_toNat`, `broadcast_toNat`: The ends of a net as numbers.
* `network_trunc`: Truncating keeps the network address.
* `contains_iff`: An address lies in a net when their grid slots agree.
* `disjoint_of_network_ne`: Nets of one size and distinct networks are disjoint.
* `dotted_injective`: Distinct addresses have distinct texts.
-/

namespace Ssam

namespace Network

/-- An IPv4 address, as the 32 bits `u32::from` reads. -/
abbrev Ipv4Addr := UInt32

/-- `a + b`, or `none` if it does not fit 32 bits. -/
def checkedAdd (a b : UInt32) : Option UInt32 :=
  if a.toNat + b.toNat < 2 ^ 32 then some (a + b) else none

/-- `a + b`, or the greatest value if it does not fit 32 bits. -/
def saturatingAdd (a b : UInt32) : UInt32 := (checkedAdd a b).getD 0xffffffff

theorem checkedAdd_eq_some {a b c : UInt32} (h : checkedAdd a b = some c) :
    c.toNat = a.toNat + b.toNat := by
  unfold checkedAdd at h
  by_cases hlt : a.toNat + b.toNat < 2 ^ 32
  · rw [if_pos hlt, Option.some.injEq] at h
    rw [← h, UInt32.toNat_add, Nat.mod_eq_of_lt hlt]
  · rw [if_neg hlt] at h
    exact absurd h (by simp only [reduceCtorEq, not_false_eq_true])

theorem saturatingAdd_toNat (a b : UInt32) :
    (saturatingAdd a b).toNat = min (a.toNat + b.toNat) (2 ^ 32 - 1) := by
  unfold saturatingAdd checkedAdd
  by_cases hlt : a.toNat + b.toNat < 2 ^ 32
  · rw [if_pos hlt, Option.getD_some, UInt32.toNat_add, Nat.mod_eq_of_lt hlt]
    omega
  · rw [if_neg hlt, Option.getD_none]
    have hmax : (0xffffffff : UInt32).toNat = 2 ^ 32 - 1 := by decide
    omega

/-- An address with a prefix length, host bits kept. -/
structure Ipv4Net where
  addr : Ipv4Addr
  prefixLen : Nat
  prefixLen_le : prefixLen ≤ 32
  deriving DecidableEq

namespace Ipv4Net

/-- `Ipv4Net::new`: fails on a prefix length over 32. -/
def new (ip : Ipv4Addr) (prefixLen : Nat) : Option Ipv4Net :=
  if h : prefixLen ≤ 32 then some ⟨ip, prefixLen, h⟩ else none

/-- How many addresses the net spans. -/
def size (n : Ipv4Net) : Nat := 2 ^ (32 - n.prefixLen)

/-- The address with its host bits cleared. -/
def network (n : Ipv4Net) : Ipv4Addr := UInt32.ofNat (n.addr.toNat / n.size * n.size)

/-- The address with its host bits set. -/
def broadcast (n : Ipv4Net) : Ipv4Addr :=
  UInt32.ofNat (n.addr.toNat / n.size * n.size + (n.size - 1))

/-- The net whose address is its own network address. -/
def trunc (n : Ipv4Net) : Ipv4Net := { n with addr := n.network }

/-- The address lies between the network and the broadcast address. -/
def Contains (n : Ipv4Net) (ip : Ipv4Addr) : Prop := n.network ≤ ip ∧ ip ≤ n.broadcast

instance (n : Ipv4Net) (ip : Ipv4Addr) : Decidable (n.Contains ip) :=
  inferInstanceAs (Decidable (n.network ≤ ip ∧ ip ≤ n.broadcast))

theorem size_pos (n : Ipv4Net) : 0 < n.size := Nat.two_pow_pos _

theorem size_dvd (n : Ipv4Net) : n.size ∣ 2 ^ 32 :=
  Nat.pow_dvd_pow 2 (Nat.sub_le 32 n.prefixLen)

/-- The grid slot an address falls in ends below 2 ^ 32. -/
theorem slot_end_le (n : Ipv4Net) (ip : Ipv4Addr) :
    ip.toNat / n.size * n.size + n.size ≤ 2 ^ 32 := by
  rcases n.size_dvd with ⟨k, hk⟩
  have hlt : ip.toNat / n.size < k := by
    rw [Nat.div_lt_iff_lt_mul n.size_pos, Nat.mul_comm, ← hk]
    exact ip.toNat_lt
  have hmul : (ip.toNat / n.size + 1) * n.size ≤ k * n.size := Nat.mul_le_mul_right _ hlt
  rw [hk, Nat.mul_comm n.size k]
  rw [Nat.add_mul, Nat.one_mul] at hmul
  exact hmul

theorem network_toNat (n : Ipv4Net) : n.network.toNat = n.addr.toNat / n.size * n.size := by
  have hend := n.slot_end_le n.addr
  have hpos := n.size_pos
  rw [network, UInt32.toNat_ofNat', Nat.mod_eq_of_lt (by omega)]

theorem broadcast_toNat (n : Ipv4Net) :
    n.broadcast.toNat = n.network.toNat + (n.size - 1) := by
  have hend := n.slot_end_le n.addr
  have hpos := n.size_pos
  rw [network_toNat, broadcast, UInt32.toNat_ofNat', Nat.mod_eq_of_lt (by omega)]

theorem network_mod (n : Ipv4Net) : n.network.toNat % n.size = 0 := by
  rw [network_toNat]
  exact Nat.mul_mod_left _ _

@[simp] theorem trunc_prefixLen (n : Ipv4Net) : n.trunc.prefixLen = n.prefixLen := rfl

@[simp] theorem trunc_size (n : Ipv4Net) : n.trunc.size = n.size := rfl

@[simp] theorem trunc_addr (n : Ipv4Net) : n.trunc.addr = n.network := rfl

@[simp] theorem network_trunc (n : Ipv4Net) : n.trunc.network = n.network := by
  rw [← UInt32.toNat_inj, network_toNat, trunc_addr, trunc_size]
  exact Nat.div_mul_cancel (Nat.dvd_of_mod_eq_zero n.network_mod)

@[simp] theorem broadcast_trunc (n : Ipv4Net) : n.trunc.broadcast = n.broadcast := by
  rw [← UInt32.toNat_inj, broadcast_toNat, broadcast_toNat, network_trunc, trunc_size]

/-- An address lies in a net exactly when it falls in the net's grid slot. -/
theorem contains_iff (n : Ipv4Net) (ip : Ipv4Addr) :
    n.Contains ip ↔ ip.toNat / n.size * n.size = n.network.toNat := by
  have hpos := n.size_pos
  have hdiv : n.size ∣ n.network.toNat := Nat.dvd_of_mod_eq_zero n.network_mod
  rw [Contains, UInt32.le_iff_toNat_le, UInt32.le_iff_toNat_le, broadcast_toNat]
  rcases hdiv with ⟨q, hq⟩
  rw [hq, Nat.mul_comm n.size q]
  constructor
  · rintro ⟨hlo, hhi⟩
    have hqe : ip.toNat / n.size = q := by
      rw [Nat.div_eq_iff hpos]
      omega
    rw [hqe]
  · intro h
    have hle := Nat.div_mul_le_self ip.toNat n.size
    have hlt := Nat.lt_div_mul_add hpos (a := ip.toNat)
    omega

/-- Nets of one size with distinct network addresses share no address. -/
theorem disjoint_of_network_ne {m n : Ipv4Net} (hsize : m.size = n.size)
    (hne : m.network ≠ n.network) (ip : Ipv4Addr) : ¬ (m.Contains ip ∧ n.Contains ip) := by
  rintro ⟨hm, hn⟩
  rw [contains_iff] at hm hn
  rw [hsize] at hm
  exact hne (UInt32.toNat_inj.mp (hm.symm.trans hn))

end Ipv4Net

/-- The dotted-quad text of an address. -/
def dotted (a : Ipv4Addr) : String :=
  s!"{a.toNat / 2 ^ 24}.{a.toNat / 2 ^ 16 % 256}.{a.toNat / 2 ^ 8 % 256}.{a.toNat % 256}"

example : dotted 0xac140008 = "172.20.0.8" := by decide

/-- The CIDR text of a net, host bits kept. -/
def Ipv4Net.text (n : Ipv4Net) : String := s!"{dotted n.addr}/{n.prefixLen}"

theorem dot_notMem_toDigits (n : Nat) : '.' ∉ Nat.toDigits 10 n := by
  intro hmem
  have hdigit := Nat.isDigit_of_mem_toDigits (by omega) (by omega) hmem
  exact absurd hdigit (by decide)

theorem toDigits_injective {m n : Nat} (h : Nat.toDigits 10 m = Nat.toDigits 10 n) : m = n := by
  rw [← Nat.ofDigitChars_ten_toDigits (n := m), h, Nat.ofDigitChars_ten_toDigits]

/-- Texts without a dot, each followed by one, are the same when what they
    start is. -/
theorem append_dot_inj {x₁ x₂ z₁ z₂ : List Char} (h₁ : '.' ∉ x₁) (h₂ : '.' ∉ x₂)
    (h : x₁ ++ '.' :: z₁ = x₂ ++ '.' :: z₂) : x₁ = x₂ ∧ z₁ = z₂ := by
  induction x₁ generalizing x₂ with
  | nil =>
      cases x₂ with
      | nil => exact ⟨rfl, List.tail_eq_of_cons_eq h⟩
      | cons c x₂ =>
          have hc : '.' = c := List.head_eq_of_cons_eq h
          exact absurd (hc ▸ List.mem_cons_self) h₂
  | cons c x₁ ih =>
      cases x₂ with
      | nil =>
          have hc : c = '.' := List.head_eq_of_cons_eq h
          exact absurd (hc ▸ List.mem_cons_self) h₁
      | cons c' x₂ =>
          have hc : c = c' := List.head_eq_of_cons_eq h
          rcases ih (List.not_mem_of_not_mem_cons h₁) (List.not_mem_of_not_mem_cons h₂)
            (List.tail_eq_of_cons_eq h) with ⟨hx, hz⟩
          exact ⟨by rw [hc, hx], hz⟩

/-- The text names the address: no digit is a dot, so the quads can be read
    back one after the other. -/
theorem dotted_injective {a b : Ipv4Addr} (h : dotted a = dotted b) : a = b := by
  have hchars := congrArg String.toList h
  simp only [dotted, toString, String.toList_append, Nat.toList_repr, String.append_assoc] at hchars
  simp only [String.reduceToList, List.cons_append, List.nil_append] at hchars
  rcases append_dot_inj (dot_notMem_toDigits _) (dot_notMem_toDigits _) hchars with ⟨h1, hrest1⟩
  rcases append_dot_inj (dot_notMem_toDigits _) (dot_notMem_toDigits _) hrest1 with ⟨h2, hrest2⟩
  rcases append_dot_inj (dot_notMem_toDigits _) (dot_notMem_toDigits _) hrest2 with ⟨h3, h4⟩
  have e1 := toDigits_injective h1
  have e2 := toDigits_injective h2
  have e3 := toDigits_injective h3
  have e4 := toDigits_injective h4
  rw [← UInt32.toNat_inj]
  omega

end Network

end Ssam
