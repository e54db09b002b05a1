import QueryFrame.Error.Wording
import QueryFrame.Proofs.Parts
import QueryFrame.Proofs.Rendering

/-!
# Joins with any separator

Expressions are joined by a template, a row of slots with the separator between each two. So the
separator is read as template as well, and a slot in it is one more that wants an argument. Other
braces in it do no harm. Beside a slot they never make one with a brace of that slot, which begins
with an opening brace and ends with a closing one (`Template.parse_append_slot`).

Hence joins are made or refused as a whole (`Expr.join_intercalates`). One that is made has all the
expressions for its parts, in their order, and says what they say with the separator in between as
it stands. It is refused when there is a slot in the separator and something to separate. The fault
then counts the slots of every separator along with those for the expressions
(`Expr.join_eq_error`).
-/

namespace QueryFrame.Expr

open Template

variable {exprs : List Expr} {separator : String}

/-- **A slot in the separator is one too many** each time the separator is written. -/
theorem join_eq_error (hlength : 2 ≤ exprs.length) (hslot : slot.toList <:+: separator.toList) :
    join exprs separator = .error (.template (.slotMismatch (slots exprs.length separator)
      (exprs.length + (exprs.length - 1) * (parse separator.toList).tail.length)
      exprs.length)) := by
  have hown : (parse separator.toList).tail.length ≠ 0 := fun hzero =>
    tail_parse_eq_nil_iff.mp (List.length_eq_zero_iff.mp hzero) hslot
  have hfound : (parse (slots exprs.length separator).toList).tail.length =
      exprs.length + (exprs.length - 1) * (parse separator.toList).tail.length := by
    obtain ⟨n, hn⟩ := Nat.exists_eq_add_of_le' hlength
    rw [hn, length_parse_slots]
    rfl
  have hmany : (exprs.length - 1) * (parse separator.toList).tail.length ≠ 0 :=
    Nat.mul_ne_zero (Nat.sub_ne_zero_of_lt hlength) hown
  rw [join, construct, hfound, if_neg fun heq => hmany (Nat.add_eq_left.mp heq)]

/-- **Joining writes the separator between the expressions**, whatever it is. Expressions are joined
if the separator has no slot in it or there are fewer than two of them. The join has them for its
parts, in their order, is empty for none of them, and in every known dialect and for any alias of
the table says what they say with the separator in between. Otherwise there is no join, but a fault
that says how many slots there were. -/
theorem join_intercalates (exprs : List Expr) (separator : String) :
    (¬ slot.toList <:+: separator.toList ∨ exprs.length ≤ 1 →
      ∃ e, join exprs separator = .ok e ∧ e.parts = exprs ∧ (exprs = [] → e = empty) ∧
        ∀ d family table, d.family = .ok family →
          e.toSql d table = .ok (separator.intercalate (exprs.map (text ⟨family, table⟩)))) ∧
    (slot.toList <:+: separator.toList ∧ 2 ≤ exprs.length →
      ∃ fault, join exprs separator = .error fault ∧ fault.code = "EXPRESSION_001") := by
  constructor
  · intro h
    obtain ⟨e, he⟩ := exists_join_iff.mpr h.symm
    refine ⟨e, he, parts_of_construct he, ?_, fun d family table hd => ?_⟩
    · rintro rfl
      exact (Except.ok.inj he).symm
    · rw [e.toSql_eq hd, text_of_join he]
  · rintro ⟨hslot, hlength⟩
    exact ⟨_, join_eq_error hlength hslot, rfl⟩

/-- Separators made of single braces. The same braces the other way round are a slot, which does not
matter as long as nothing is separated. -/
theorem join_intercalates_braces :
    let exprs := [column "a", raw slot, string "\x7d"]
    (∃ e, join exprs "\x7d\x7b" = .ok e ∧ e.parts = exprs ∧
      e.toSql .postgres (some "t") = .ok "\"t\".\"a\"\x7d\x7b\x7b\x7d\x7d\x7b'\x7d'") ∧
    (∃ e, join [column "a"] slot = .ok e ∧ e.toSql .bigQuery none = .ok "\x60a\x60") ∧
    ∃ fault, join exprs slot = .error fault ∧ fault.code = "EXPRESSION_001" := by
  intro exprs
  refine ⟨?_, ?_, ?_⟩
  · obtain ⟨e, he, hparts, -, htext⟩ := (join_intercalates exprs "\x7d\x7b").1 (.inl (by decide))
    refine ⟨e, he, hparts, ?_⟩
    rw [htext _ _ _ rfl]
    decide +kernel
  · obtain ⟨e, he, -, -, htext⟩ := (join_intercalates [column "a"] slot).1 (.inr (by decide))
    refine ⟨e, he, ?_⟩
    rw [htext _ _ _ rfl]
    decide +kernel
  · exact (join_intercalates exprs slot).2 ⟨by decide, by decide⟩

end QueryFrame.Expr
