import QueryFrame.Literal
import QueryFrame.Proofs.ReadBack
import QueryFrame.Proofs.Templates
import QueryFrame.Series.Aggregate
import QueryFrame.Series.Comparison
import QueryFrame.Series.Windowed

/-!
# The words of the library

All plain text that the library writes comes from a vocabulary of its own, `Word`: keywords and
punctuation, the names of functions and operators, numerals and the clauses of frames. No word holds
a quote or an opening brace (`Word.plain`). So a word neither begins a quoted token nor adds a slot
to a template, whatever stands next to it.
-/

namespace QueryFrame

open Number

/-- Text without quotes and opening braces. -/
def Text.Plain (text : String) : Prop :=
  ∀ c ∈ text.toList, isQuote c = false ∧ c ≠ '{'

instance (text : String) : Decidable (Text.Plain text) :=
  List.decidableBAll (fun c => isQuote c = false ∧ c ≠ '{') text.toList

theorem Text.Plain.append {left right : String} (hl : Plain left) (hr : Plain right) :
    Plain (left ++ right) := by
  intro c hc
  rw [String.toList_append] at hc
  rcases List.mem_append.mp hc with hc | hc
  · exact hl c hc
  · exact hr c hc

/-- Keywords and punctuation. -/
def vocabulary : List String :=
  ["(", ")", "()", ", ", " ", " as ", "), (", "sum(", "avg(", "min(", "max(", "count(",
    "count(distinct ", "over (", "partition by ", "order by ", " asc", " desc", " asc, ", " desc, ",
    "cube (", "rollup (", "grouping sets (", "case when (count(1) ", " else NULL end", "true",
    "false"]

/-- The plain text that the library writes. -/
inductive Word : String → Prop
  /-- keywords and punctuation -/
  | fixed {text : String} (h : text ∈ vocabulary) : Word text
  /-- the call of a window function, up to its arguments -/
  | call (f : WindowFunction) : Word (f.name ++ "(")
  /-- the call of a window function without arguments -/
  | emptyCall (f : WindowFunction) : Word (f.name ++ "(" ++ ")")
  /-- an operator with the parentheses of its operands -/
  | operator (op : Comparison) : Word (") " ++ op.symbol ++ " (")
  /-- a natural number -/
  | nat (n : Nat) : Word (Decimal.ofNat n)
  /-- a whole number -/
  | int (n : Int) : Word (Decimal.ofInt n)
  /-- a floating-point number -/
  | float {x : Float} (h : Float64.isFinite x = true) : Word (Float64.text x)
  /-- the least number of rows in a guard -/
  | threshold (minValues : UInt32) : Word (Window.threshold minValues)
  /-- the clause of a frame -/
  | frame {frame : Frame} {mode : FrameMode} {text : String}
      (h : frame.check = .ok (mode, text)) : Word text

namespace Word

theorem opening : Word "(" := .fixed (by decide)

theorem closing : Word ")" := .fixed (by decide)

theorem comma : Word ", " := .fixed (by decide)

theorem space : Word " " := .fixed (by decide)

end Word

/-! ## Numbers -/

/-- Whether a character occurs in the text of a number. -/
def isNumeral (c : Char) : Bool :=
  Decimal.isDigit c || c = '-' || c = '.' || c = 'e'

theorem isNumeral_of_mem_digits {n : Nat} {c : Char} (h : c ∈ Decimal.digits n) :
    isNumeral c = true := by
  rw [isNumeral, Decimal.isDigit_of_mem_digits n c h]
  rfl

theorem isNumeral_of_mem_signed {n : Int} {c : Char} (h : c ∈ Decimal.signed n) :
    isNumeral c = true := by
  cases n with
  | ofNat n => exact isNumeral_of_mem_digits h
  | negSucc n =>
    rcases List.mem_cons.mp h with rfl | h
    · decide
    · exact isNumeral_of_mem_digits h

/-- The text of a whole number begins with such a character, whatever follows it. -/
theorem exists_numeral_of_signed (n : Int) (rest : List Char) :
    ∃ c, (Decimal.signed n ++ rest).head? = some c ∧ isNumeral c = true := by
  obtain ⟨c, run, hsigned⟩ := List.exists_cons_of_ne_nil (Decimal.signed_ne_nil n)
  have hc : c ∈ Decimal.signed n := by
    rw [hsigned]
    exact List.mem_cons_self ..
  refine ⟨c, ?_, isNumeral_of_mem_signed hc⟩
  rw [hsigned]
  rfl

theorem isNumeral_of_mem_places {digits : List Char} (hdigits : ∀ c ∈ digits, isNumeral c = true) :
    ∀ c ∈ Float64.places digits, isNumeral c = true := by
  cases digits with
  | nil => exact List.forall_mem_singleton.mpr (by decide)
  | cons first rest => exact hdigits

theorem isNumeral_of_mem_positional {digits : List Char} {exponent : Int}
    (hdigits : ∀ c ∈ digits, isNumeral c = true) :
    ∀ c ∈ Float64.positional digits exponent, isNumeral c = true := by
  have hzeros : ∀ n, ∀ c ∈ List.replicate n '0', isNumeral c = true := by
    intro n c hc
    rw [List.eq_of_mem_replicate hc]
    decide
  intro c hc
  rw [Float64.positional] at hc
  split at hc
  · -- below one: zeros between the point and the digits
    simp only [List.mem_cons, List.mem_append] at hc
    rcases hc with rfl | rfl | hc | hc
    · decide
    · decide
    · exact hzeros _ c hc
    · exact hdigits c hc
  · -- otherwise the zeros, if any, stand in front of the point
    simp only [List.mem_append, List.mem_cons] at hc
    rcases hc with (hc | hc) | rfl | hc
    · exact hdigits c (List.mem_of_mem_take hc)
    · exact hzeros _ c hc
    · decide
    · exact isNumeral_of_mem_places (fun c hc => hdigits c (List.mem_of_mem_drop hc)) c hc

theorem isNumeral_of_mem_scientific {digits : List Char} {exponent : Int}
    (hdigits : ∀ c ∈ digits, isNumeral c = true) :
    ∀ c ∈ Float64.scientific digits exponent, isNumeral c = true := by
  intro c hc
  simp only [Float64.scientific, List.mem_append, List.mem_cons] at hc
  rcases hc with ((hc | hc) | hc) | rfl | hc
  · exact hdigits c (List.mem_of_mem_take hc)
  · split at hc
    · cases hc
    · rw [List.mem_singleton.mp hc]
      decide
  · exact hdigits c (List.mem_of_mem_drop hc)
  · decide
  · exact isNumeral_of_mem_signed hc

/-- The text of a floating-point number, unless the value is none. -/
theorem isNumeral_of_mem_text {x : Float} (h : Float64.isFinite x = true) :
    ∀ c ∈ (Float64.text x).toList, isNumeral c = true := by
  have hmagnitude : ∀ c ∈ Float64.magnitudeText (Float64.magnitude x), isNumeral c = true := by
    intro c hc
    rw [Float64.magnitudeText] at hc
    split at hc
    · simp only [List.mem_cons, List.not_mem_nil, or_false] at hc
      rcases hc with rfl | rfl | rfl <;> decide
    · dsimp only at hc
      split at hc
      · exact isNumeral_of_mem_positional (fun _ hd => isNumeral_of_mem_digits hd) c hc
      · exact isNumeral_of_mem_scientific (fun _ hd => isNumeral_of_mem_digits hd) c hc
  intro c hc
  rw [Float64.text, if_pos h, String.toList_append, String.toList_ofList] at hc
  rcases List.mem_append.mp hc with hc | hc
  · split at hc
    · have hsign : c = '-' := by simpa using hc
      rw [hsign]
      decide
    · cases hc
  · exact hmagnitude c hc

/-! ## Words hold no quotes -/

theorem Text.plain_of_numerals {text : String} (h : ∀ c ∈ text.toList, isNumeral c = true) :
    Text.Plain text := by
  intro c hc
  have hnumeral := h c hc
  refine ⟨Bool.eq_false_iff.mpr fun hquote => ?_, ?_⟩
  · simp only [isQuote, Bool.or_eq_true, decide_eq_true_eq] at hquote
    rcases hquote with (rfl | rfl) | rfl <;> exact absurd hnumeral (by decide)
  · rintro rfl
    exact absurd hnumeral (by decide)

theorem Text.plain_ofNat (n : Nat) : Text.Plain (Decimal.ofNat n) := by
  refine plain_of_numerals fun c hc => ?_
  rw [Decimal.ofNat, String.toList_ofList] at hc
  exact isNumeral_of_mem_digits hc

theorem Text.plain_ofInt (n : Int) : Text.Plain (Decimal.ofInt n) := by
  refine plain_of_numerals fun c hc => ?_
  rw [Decimal.ofInt, String.toList_ofList] at hc
  exact isNumeral_of_mem_signed hc

theorem Bound.plain_of_clause {bound : Bound} {text : String} (h : bound.clause = .ok text) :
    Text.Plain text := by
  have hkeyword : ∀ boundary : Boundary, Text.Plain boundary.keyword := by
    intro boundary
    cases boundary <;> decide
  have hunbounded : Text.Plain "UNBOUNDED " := by decide
  have hspace : Text.Plain " " := by decide
  obtain ⟨boundary, offset⟩ := bound
  cases offset with
  | none =>
    cases boundary with
    | currentRow =>
      obtain rfl := Except.ok.inj h
      decide
    | preceding | following =>
      obtain rfl := Except.ok.inj h
      exact hunbounded.append (hkeyword _)
  | some offset =>
    cases boundary with
    | currentRow => cases h
    | preceding | following =>
      obtain rfl := Except.ok.inj h
      exact ((Text.plain_ofInt _).append hspace).append (hkeyword _)

/-- Inversion for a frame that means something: it has a mode, and its clause is the one of its
bounds in that mode. -/
theorem Frame.check_eq_ok {frame : Frame} {mode : FrameMode} {text : String}
    (h : frame.check = .ok (mode, text)) :
    frame.mode = some mode ∧ frame.clause mode = .ok text := by
  rw [check] at h
  -- each check in turn has been passed
  split at h
  · cases h
  next own hown =>
  split at h
  · cases h
  split at h
  · cases h
  split at h
  · cases h
  split at h
  · cases h
  split at h
  · cases h
  obtain ⟨-, -, h⟩ := Outcome.bind_eq_ok h
  obtain ⟨clause, hclause, h⟩ := Outcome.bind_eq_ok h
  cases Outcome.pure_eq_ok h
  exact ⟨hown, hclause⟩

theorem Frame.plain_of_clause {frame : Frame} {mode : FrameMode} {text : String}
    (h : frame.clause mode = .ok text) : Text.Plain text := by
  have hkeyword : Text.Plain mode.keyword := by
    cases mode <;> decide
  have hspace : Text.Plain " " := by decide
  have hbetween : Text.Plain " BETWEEN " := by decide
  have hand : Text.Plain " AND " := by decide
  rw [clause] at h
  split at h
  · obtain ⟨first, hfirst, h⟩ := Outcome.bind_eq_ok h
    rw [← Outcome.pure_eq_ok h]
    exact (hkeyword.append hspace).append (Bound.plain_of_clause hfirst)
  · obtain ⟨first, hfirst, h⟩ := Outcome.bind_eq_ok h
    obtain ⟨last, hlast, h⟩ := Outcome.bind_eq_ok h
    rw [← Outcome.pure_eq_ok h]
    exact (((hkeyword.append hbetween).append (Bound.plain_of_clause hfirst)).append hand).append
      (Bound.plain_of_clause hlast)
  · obtain rfl := Except.ok.inj h
    decide

/-- **Words hold no quotes**, and no braces that could open a slot. -/
theorem Word.plain {text : String} (h : Word text) : Text.Plain text := by
  cases h with
  | fixed h =>
    have hall : ∀ text ∈ vocabulary, Text.Plain text := by decide +kernel
    exact hall text h
  | call f => cases f <;> decide +kernel
  | emptyCall f => cases f <;> decide +kernel
  | operator op => cases op <;> decide +kernel
  | nat n => exact Text.plain_ofNat n
  | int n => exact Text.plain_ofInt n
  | float h => exact Text.plain_of_numerals (isNumeral_of_mem_text h)
  | threshold minValues =>
    have hopen : Text.Plain ") >= " := by decide
    have hclose : Text.Plain " then " := by decide
    exact (hopen.append (Text.plain_ofNat _)).append hclose
  | frame h => exact Frame.plain_of_clause (Frame.check_eq_ok h).2

end QueryFrame
