/-!
# Decimal notation of whole numbers

Whole numbers are written with the digits `0` to `9`, most significant first, without leading
zeros, and with a minus sign in front of a negative number. `value_digits` says that reading the
digits gives the number back.
-/

namespace QueryFrame.Number.Decimal

/-- The character of a single digit. -/
def digitChar (digit : Nat) : Char :=
  Char.ofNat ('0'.toNat + digit)

/-- The digits of a natural number, most significant first. -/
def digits (n : Nat) : List Char :=
  if n < 10 then [digitChar n] else digits (n / 10) ++ [digitChar (n % 10)]

/-- A whole number with its sign. -/
def signed : Int → List Char
  | .ofNat n => digits n
  | .negSucc n => '-' :: digits (n + 1)

/-- The text of a natural number. -/
def ofNat (n : Nat) : String :=
  String.ofList (digits n)

/-- The text of a whole number. -/
def ofInt (n : Int) : String :=
  String.ofList (signed n)

/-- What one more digit makes of the number read so far. -/
def extend (read : Nat) (digit : Char) : Nat :=
  10 * read + (digit.toNat - '0'.toNat)

/-- The number that a run of digits stands for. -/
def value (cs : List Char) : Nat :=
  cs.foldl extend 0

/-- Whether a character is one of the ten digits. -/
def isDigit (c : Char) : Bool :=
  '0'.toNat ≤ c.toNat && c.toNat ≤ '9'.toNat

/-- A run of digits, which must not be empty, and what follows it. -/
def readDigits (cs : List Char) : Option (List Char × List Char) :=
  match cs.takeWhile isDigit with
  | [] => none
  | run => some (run, cs.dropWhile isDigit)

theorem digitChar_toNat {digit : Nat} (h : digit < 10) : (digitChar digit).toNat = 48 + digit := by
  have h' : digit = 0 ∨ digit = 1 ∨ digit = 2 ∨ digit = 3 ∨ digit = 4 ∨ digit = 5 ∨ digit = 6 ∨
      digit = 7 ∨ digit = 8 ∨ digit = 9 := by omega
  rcases h' with h | h | h | h | h | h | h | h | h | h <;> subst h <;> rfl

theorem isDigit_digitChar {digit : Nat} (h : digit < 10) : isDigit (digitChar digit) = true := by
  have := digitChar_toNat h
  simp only [isDigit, this, Bool.and_eq_true, decide_eq_true_eq]
  exact ⟨Nat.le_add_right 48 digit, show 48 + digit ≤ 57 by omega⟩

/-- A number's text holds digits only. -/
theorem isDigit_of_mem_digits (n : Nat) : ∀ c ∈ digits n, isDigit c = true := by
  induction n using Nat.strongRecOn with
  | ind n ih =>
    intro c hc
    rw [digits] at hc
    split at hc
    · next h =>
      rw [List.mem_singleton] at hc
      exact hc ▸ isDigit_digitChar h
    · next h =>
      rcases List.mem_append.mp hc with hc | hc
      · exact ih (n / 10) (by omega) c hc
      · rw [List.mem_singleton] at hc
        exact hc ▸ isDigit_digitChar (Nat.mod_lt n (by omega))

theorem digits_ne_nil (n : Nat) : digits n ≠ [] := by
  rw [digits]
  split <;> simp

theorem signed_ne_nil (n : Int) : signed n ≠ [] := by
  cases n with
  | ofNat n => exact digits_ne_nil n
  | negSucc n => exact List.cons_ne_nil _ _

/-- A number begins with a digit, whatever follows it. -/
theorem exists_head_digits (n : Nat) (rest : List Char) :
    ∃ c, (digits n ++ rest).head? = some c ∧ isDigit c = true ∧ (n ≠ 0 → c ≠ '0') := by
  induction n using Nat.strongRecOn generalizing rest with
  | ind n ih =>
    rw [digits]
    split
    · next h =>
      refine ⟨digitChar n, rfl, isDigit_digitChar h, fun hn hzero => hn ?_⟩
      have hvalue := digitChar_toNat h
      rw [hzero] at hvalue
      change 48 = 48 + n at hvalue
      omega
    · next h =>
      obtain ⟨c, hhead, hdigit, hzero⟩ := ih (n / 10) (by omega) (digitChar (n % 10) :: rest)
      refine ⟨c, ?_, hdigit, fun _ => hzero (by omega)⟩
      rw [List.append_assoc]
      exact hhead

/-- Reading the digits of a number gives the number back. -/
theorem value_digits (n : Nat) : value (digits n) = n := by
  induction n using Nat.strongRecOn with
  | ind n ih =>
    rw [digits]
    split
    · next h =>
      simp only [value, List.foldl_cons, List.foldl_nil, extend, digitChar_toNat h]
      show 10 * 0 + (48 + n - 48) = n
      omega
    · next h =>
      have hr := ih (n / 10) (by omega)
      simp only [value] at hr
      simp only [value, List.foldl_append, hr, List.foldl_cons, List.foldl_nil, extend,
        digitChar_toNat (Nat.mod_lt n (show 10 > 0 by omega))]
      show 10 * (n / 10) + (48 + n % 10 - 48) = n
      omega

/-- The text of a natural number is its usual decimal representation. -/
theorem ofNat_eq_repr (n : Nat) : ofNat n = n.repr := by
  have hdigit : ∀ digit < 10, digitChar digit = digit.digitChar := by decide
  have hdigits : digits n = Nat.toDigits 10 n := by
    induction n using Nat.strongRecOn with
    | ind n ih =>
      rw [digits, Nat.toDigits_eq_if (by decide)]
      split
      · next h => rw [hdigit n h]
      · next h => rw [ih (n / 10) (by omega), hdigit _ (Nat.mod_lt n (by omega))]
  rw [ofNat, hdigits, Nat.repr_eq_ofList_toDigits]

/-- A run of digits is read up to the first other character. -/
theorem readDigits_append {run rest : List Char} (hrun : ∀ c ∈ run, isDigit c = true)
    (hne : run ≠ []) (hrest : ∀ c ∈ rest.head?, isDigit c = false) :
    readDigits (run ++ rest) = some (run, rest) := by
  have hstop : rest.takeWhile isDigit = [] ∧ rest.dropWhile isDigit = rest := by
    cases rest with
    | nil => exact ⟨rfl, rfl⟩
    | cons c rest =>
      have hc : isDigit c = false := hrest c rfl
      simp [hc]
  rw [readDigits, List.takeWhile_append_of_pos hrun, List.dropWhile_append_of_pos hrun, hstop.1,
    hstop.2, List.append_nil]
  cases run with
  | nil => exact absurd rfl hne
  | cons c run => rfl

/-- A number is read where no digit follows. -/
theorem readDigits_digits (n : Nat) {rest : List Char}
    (hrest : ∀ c ∈ rest.head?, isDigit c = false) :
    readDigits (digits n ++ rest) = some (digits n, rest) :=
  readDigits_append (isDigit_of_mem_digits n) (digits_ne_nil n) hrest

end QueryFrame.Number.Decimal
