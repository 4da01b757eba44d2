/-!
# Arithmetic that keeps to its word

A sum or a product may be too large for the word that is to hold it, and a difference may be below
zero.  These operations have a result only where the exact one fits.
-/

namespace FeedReader.Word

def add? (size a b : Nat) : Option Nat := if a + b < size then some (a + b) else none

def mul? (size a b : Nat) : Option Nat := if a * b < size then some (a * b) else none

def sub? (a b : Nat) : Option Nat := if b ≤ a then some (a - b) else none

variable {size a b : Nat}

theorem add?_of_lt (h : a + b < size) : add? size a b = some (a + b) := if_pos h

theorem mul?_eq_some_iff {c : Nat} : mul? size a b = some c ↔ a * b < size ∧ a * b = c :=
  Option.ite_none_right_eq_some.trans (and_congr_right fun _ => Option.some_inj)

theorem sub?_of_le (h : b ≤ a) : sub? a b = some (a - b) := if_pos h

end FeedReader.Word
