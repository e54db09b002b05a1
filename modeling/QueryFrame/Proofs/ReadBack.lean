import QueryFrame.Proofs.Scanner
import Mathlib.Data.List.Chain

/-!
# Rendered text can be read back

Whatever the names and strings of an expression are, its text is read as its leaves. Two things are
asked of the expression. Its plain text holds no quotes, since such a quote would open a token of
its own. And where a mark escapes itself, no two quoted leaves with one mark stand side by side,
since the two marks between them would be read as one that is escaped.

The induction is on the leaves from the right: the text behind a leaf is that of the leaves behind
it, and `head?_renderAll` says how that text begins, which is all that the end of a quoted token
depends on.
-/

namespace QueryFrame

/-! ## Rows of leaves -/

/-- Whether a character is a quote of any of the families. -/
def isQuote (c : Char) : Bool :=
  c = '\'' || c = '"' || c = '\x60'

/-- A character that is no quote opens no token. -/
theorem Family.opening?_eq_none {family : Family} {c : Char} (h : isQuote c = false) :
    family.opening? c = none := by
  simp only [isQuote, Bool.or_eq_false_iff, decide_eq_false_iff_not] at h
  obtain ⟨⟨hs, hd⟩, hg⟩ := h
  cases family <;>
    simp [opening?, quotes, nameQuotes, stringQuotes, Ne.symm hs, Ne.symm hd, Ne.symm hg]

theorem Family.opening?_nameQuotes (family : Family) :
    family.opening? family.nameQuotes.mark = some family.nameQuotes := by
  cases family <;> decide

theorem Family.opening?_stringQuotes (family : Family) :
    family.opening? family.stringQuotes.mark = some family.stringQuotes := by
  cases family <;> decide

namespace Leaf

/-- The mark that a leaf begins and ends with, if it is quoted. -/
def mark? (family : Family) : Leaf → Option Char
  | .raw _ => none
  | .column _ | .identifier _ => some family.nameQuotes.mark
  | .string _ => some family.stringQuotes.mark

/-- Whether two leaves, written side by side, stand mark to mark. -/
def Touch (family : Family) (left right : Leaf) : Prop :=
  left.mark? family ≠ none ∧ left.mark? family = right.mark? family

instance (family : Family) (left right : Leaf) : Decidable (Touch family left right) :=
  inferInstanceAs (Decidable (_ ∧ _))

/-- The leaves that leave a trace in the text. -/
def visible (leaves : List Leaf) : List Leaf :=
  leaves.filter (· ≠ .raw "")

/-- No quoted leaf is followed at once by one with the same mark. -/
def Apart (family : Family) (leaves : List Leaf) : Prop :=
  (visible leaves).IsChain fun left right => ¬ Touch family left right

instance (family : Family) (leaves : List Leaf) : Decidable (Apart family leaves) :=
  inferInstanceAs (Decidable (List.IsChain _ _))

/-- Plain text of a leaf holds no quotes. -/
def Unquoted : Leaf → Prop
  | .raw sql => ∀ c ∈ sql.toList, isQuote c = false
  | _ => True

instance : (leaf : Leaf) → Decidable leaf.Unquoted
  | .raw sql => List.decidableBAll (fun c => isQuote c = false) sql.toList
  | .column _ | .identifier _ | .string _ => isTrue trivial

theorem visible_cons_of_ne {leaf : Leaf} (h : leaf ≠ .raw "") (rest : List Leaf) :
    visible (leaf :: rest) = leaf :: visible rest := by
  rw [visible, List.filter_cons, if_pos (by simpa using h)]
  rfl

@[simp] theorem visible_empty (rest : List Leaf) :
    visible (.raw "" :: rest) = visible rest := by
  simp [visible]

/-- A quoted leaf is visible. -/
theorem ne_empty_of_mark? {family : Family} {leaf : Leaf} {mark : Char}
    (h : leaf.mark? family = some mark) : leaf ≠ .raw "" := by
  rintro rfl
  cases h

theorem Apart.tail {family : Family} {leaf : Leaf} {rest : List Leaf}
    (h : Apart family (leaf :: rest)) : Apart family rest := by
  by_cases he : leaf = .raw ""
  · rw [he, Apart, visible_empty] at h
    exact h
  · rw [Apart, visible_cons_of_ne he] at h
    exact h.tail

/-- Text that leaves no trace may be left out behind a leaf. -/
theorem Apart.drop_empty {family : Family} {leaf : Leaf} {rest : List Leaf}
    (h : Apart family (leaf :: .raw "" :: rest)) : Apart family (leaf :: rest) := by
  by_cases he : leaf = .raw ""
  · rw [he, Apart, visible_empty, visible_empty] at h
    rw [he, Apart, visible_empty]
    exact h
  · rw [Apart, visible_cons_of_ne he, visible_empty] at h
    rw [Apart, visible_cons_of_ne he]
    exact h

/-- Quoted leaves that are written one behind the other do not share a mark. -/
theorem Apart.not_touch {family : Family} {left right : Leaf} {rest : List Leaf}
    (h : Apart family (left :: right :: rest)) (hl : left ≠ .raw "") (hr : right ≠ .raw "") :
    ¬ Touch family left right := by
  rw [Apart, visible_cons_of_ne hl, visible_cons_of_ne hr] at h
  exact h.rel

/-! ### How the text of a row begins -/

/-- The text of a quoted leaf begins with its mark, also when a table is named in front. -/
theorem head?_renderOnto {target : Target} {leaf : Leaf} {mark : Char}
    (h : leaf.mark? target.family = some mark) (rest : List Char) :
    (leaf.renderOnto target rest).head? = some mark := by
  cases leaf with
  | raw sql => cases h
  | column name =>
    rw [renderOnto, Target.qualifyOnto]
    split
    · exact h
    · exact h
  | identifier name => exact h
  | string value => exact h

/-- **What follows a quoted leaf** does not begin with the mark of the leaf. -/
theorem head?_renderAll {target : Target} {leaf : Leaf} {mark : Char}
    (hmark : leaf.mark? target.family = some mark) (hquote : isQuote mark = true) :
    ∀ {rest : List Leaf}, (∀ other ∈ rest, other.Unquoted) →
      Apart target.family (leaf :: rest) → (renderAll target rest).head? ≠ some mark := by
  intro rest
  induction rest with
  | nil =>
    intro _ _ h
    cases h
  | cons next rest ih =>
    intro hraw hapart
    by_cases hempty : next = .raw ""
    · -- no text: look further
      subst hempty
      exact ih (List.forall_mem_of_forall_mem_cons hraw) hapart.drop_empty
    · have hnot := hapart.not_touch (ne_empty_of_mark? hmark) hempty
      cases hnext : next.mark? target.family with
      | some other =>
        -- a quoted leaf: it has another mark
        intro hhead
        rw [renderAll, List.foldr_cons, head?_renderOnto hnext] at hhead
        exact hnot ⟨by rw [hmark]; simp, by rw [hmark, hnext, hhead]⟩
      | none =>
        -- plain text: it holds no marks at all
        cases next with
        | raw sql =>
          intro hhead
          have hunquoted : ∀ c ∈ sql.toList, isQuote c = false := hraw _ (List.mem_cons_self ..)
          rw [renderAll, List.foldr_cons, renderOnto] at hhead
          cases hsql : sql.toList with
          | nil => exact hempty (by rw [← String.ofList_toList (s := sql), hsql])
          | cons c text =>
            rw [hsql] at hhead hunquoted
            have hc : c = mark := Option.some.inj hhead
            have := hunquoted c (List.mem_cons_self ..)
            rw [hc, hquote] at this
            cases this
        | column name => cases hnext
        | identifier name => cases hnext
        | string value => cases hnext

end Leaf

/-! ## Reading -/

theorem Family.isQuote_nameQuotes (family : Family) : isQuote family.nameQuotes.mark = true := by
  cases family <;> decide

theorem Family.isQuote_stringQuotes (family : Family) :
    isQuote family.stringQuotes.mark = true := by
  cases family <;> decide

/-- Columnar engines escape with a character of its own, so there every token ends at its mark. -/
theorem Leaf.ends_renderAll {target : Target} {style : QuoteStyle} {leaf : Leaf} {rest : List Leaf}
    (hstyle : style = target.family.nameQuotes ∨ style = target.family.stringQuotes)
    (hmark : leaf.mark? target.family = some style.mark) (hraw : ∀ other ∈ rest, other.Unquoted)
    (hapart : target.family = .rowStore → Apart target.family (leaf :: rest)) :
    style.Ends (renderAll target rest) := by
  intro hescape
  have hrow : target.family = .rowStore := by
    cases hf : target.family with
    | rowStore => rfl
    | columnarAnalytics =>
      rw [hf] at hstyle
      rcases hstyle with rfl | rfl <;> exact absurd hescape (by decide)
  have hquote : isQuote style.mark = true := by
    rcases hstyle with rfl | rfl
    · exact Family.isQuote_nameQuotes _
    · exact Family.isQuote_stringQuotes _
  exact head?_renderAll hmark hquote hraw (hapart hrow)

/-- A qualified name is read as alias, dot and name. -/
theorem readSql_qualifyOnto (target : Target) {rest : List Char} {pieces : List Piece}
    {style : QuoteStyle} {name : List Char}
    (h : readSql target.family rest = some (.quoted style name :: pieces)) :
    readSql target.family (target.qualifyOnto rest) =
      some (target.qualifier ++ .quoted style name :: pieces) := by
  rw [Target.qualifyOnto, Target.qualifier]
  cases target.table with
  | none => exact h
  | some table =>
    have hdot : ∀ c ∈ ['.'], target.family.opening? c = none := by
      intro c hc
      rw [List.mem_singleton] at hc
      rw [hc]
      exact Family.opening?_eq_none (by decide)
    have hread := readSql_plain hdot rest
    rw [h] at hread
    have hends : target.family.nameQuotes.Ends ('.' :: rest) := by
      intro _ hhead
      have hdot : isQuote '.' = true := by
        rw [Option.some.inj hhead]
        exact Family.isQuote_nameQuotes _
      exact absurd hdot (by decide)
    rw [readSql_quoteOnto (Family.opening?_nameQuotes _) _ hends]
    change Option.map _ (readSql target.family (['.'] ++ rest)) = _
    rw [hread]
    rfl

/-- **A row of leaves is read as it was written**, if its plain text holds no quotes and, where
marks escape themselves, quoted leaves with one mark are kept apart. -/
theorem readSql_renderAll (target : Target) :
    ∀ {leaves : List Leaf}, (∀ leaf ∈ leaves, leaf.Unquoted) →
      (target.family = .rowStore → Leaf.Apart target.family leaves) →
      readSql target.family (Leaf.renderAll target leaves) =
        some (Piece.merge (leaves.flatMap (Leaf.pieces target))) := by
  intro leaves
  induction leaves with
  | nil =>
    intro _ _
    rfl
  | cons leaf rest ih =>
    intro hraw hapart
    have hrest := List.forall_mem_of_forall_mem_cons hraw
    have ih := ih hrest fun hrow => (hapart hrow).tail
    rw [List.flatMap_cons]
    cases leaf with
    | raw sql =>
      have hplain : ∀ c ∈ sql.toList, target.family.opening? c = none := fun c hc =>
        Family.opening?_eq_none (hraw _ (List.mem_cons_self ..) c hc)
      have hread := readSql_plain hplain (Leaf.renderAll target rest)
      rw [ih] at hread
      exact hread
    | column name =>
      have hmark : (Leaf.column name).mark? target.family =
          some target.family.nameQuotes.mark := rfl
      have hends := Leaf.ends_renderAll (.inl rfl) hmark hrest hapart
      have hread := readSql_quoteOnto (Family.opening?_nameQuotes _) name.toList hends
      rw [ih] at hread
      have hqualified := readSql_qualifyOnto target hread
      rw [Leaf.pieces, List.append_assoc]
      refine hqualified.trans ?_
      rw [Target.qualifier]
      split <;> rfl
    | identifier name =>
      have hmark : (Leaf.identifier name).mark? target.family =
          some target.family.nameQuotes.mark := rfl
      have hends := Leaf.ends_renderAll (.inl rfl) hmark hrest hapart
      have hread := readSql_quoteOnto (Family.opening?_nameQuotes _) name.toList hends
      rw [ih] at hread
      exact hread
    | string value =>
      have hmark : (Leaf.string value).mark? target.family =
          some target.family.stringQuotes.mark := rfl
      have hends := Leaf.ends_renderAll (.inr rfl) hmark hrest hapart
      have hread := readSql_quoteOnto (Family.opening?_stringQuotes _) value.toList hends
      rw [ih] at hread
      exact hread

/-- What is read of the text of an expression, as lexemes that cover the text. -/
theorem exists_lexemes_of_readSql {e : Expr} {d : Dialect} {family : Family}
    (hfamily : d.family = .ok family) {table : Option String} {pieces : List Piece}
    (h : readSql family (e.render ⟨family, table⟩) = some pieces) :
    ∃ sql lexemes, e.toSql d table = .ok sql ∧ scan family sql.toList = some lexemes ∧
      lexemes.flatMap Lexeme.written = sql.toList ∧ lexemes.map Lexeme.read = pieces := by
  rw [readSql] at h
  obtain ⟨lexemes, hscan, hpieces⟩ := Option.map_eq_some_iff.mp h
  refine ⟨String.ofList (e.render ⟨family, table⟩), lexemes, ?_, ?_, ?_, hpieces⟩
  · rw [Expr.toSql, hfamily]
    rfl
  · rw [String.toList_ofList]
    exact hscan
  · rw [String.toList_ofList]
    exact written_of_scan family _ lexemes hscan

/-- **Rendering can be read back**: in a dialect that has a family, every expression has a text, and
a reader cuts that text into the leaves of the expression. Plain text comes back as it was, and
every name and string as one quoted token with the very content, a column behind the alias of its
table and a dot when there is one. -/
theorem scan_toSql {e : Expr} {d : Dialect} {family : Family} (hfamily : d.family = .ok family)
    (table : Option String) (hraw : ∀ leaf ∈ e.leaves, leaf.Unquoted)
    (hapart : family = .rowStore → Leaf.Apart family e.leaves) :
    ∃ sql lexemes, e.toSql d table = .ok sql ∧ scan family sql.toList = some lexemes ∧
      lexemes.flatMap Lexeme.written = sql.toList ∧
      lexemes.map Lexeme.read = e.pieces ⟨family, table⟩ := by
  have hread := readSql_renderAll ⟨family, table⟩ hraw hapart
  rw [← Expr.render_eq_leaves] at hread
  exact exists_lexemes_of_readSql hfamily hread

/-- A name that ends its token and a string that escapes the closing mark, side by side. -/
theorem scan_toSql_hostile :
    let e : Expr := ⟨.regular, [(Expr.column "a\"; --").token, (Expr.string "it's \\").token]⟩
    (∀ leaf ∈ e.leaves, leaf.Unquoted) ∧ Leaf.Apart .rowStore e.leaves ∧
      ∃ sql lexemes, e.toSql .postgres (some "t") = .ok sql ∧
        scan .rowStore sql.toList = some lexemes ∧
        lexemes.flatMap Lexeme.written = sql.toList ∧
        lexemes.map Lexeme.read = e.pieces ⟨.rowStore, some "t"⟩ :=
  ⟨by decide, by decide, scan_toSql rfl (some "t") (by decide) fun _ => by decide⟩

end QueryFrame
