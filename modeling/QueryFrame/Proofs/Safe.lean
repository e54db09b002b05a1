import QueryFrame.Proofs.Vocabulary

/-!
# Safe expressions

An expression is *safe* for the texts of a caller when its plain leaves are words of the library,
its quoted leaves hold those texts and nothing else, and no two quoted leaves with one mark touch
(`Expr.Safe`). Every template of the library is spelled with words, and with a word between any two
slots, so it makes safe expressions from safe ones whatever they are (`Expr.Safe.construct`). The
rest goes through the templates: those of single calls first, then rows, orders and windows.
-/

namespace QueryFrame

/-- Where the text of a leaf comes from: plain text from the library, quoted text from the caller.
The name of a level among the columns is put together from two names of the caller. -/
def Leaf.From (U : String → Prop) : Leaf → Prop
  | .raw sql => Word sql
  | .column name => U name
  | .identifier name => U name ∨ ∃ series level, U series ∧ U level ∧ name = series ++ "__" ++ level
  | .string value => U value

/-- Plain text from the library holds no quotes. -/
theorem Leaf.From.unquoted {U : String → Prop} {leaf : Leaf} (h : leaf.From U) : leaf.Unquoted := by
  cases leaf with
  | raw sql => exact fun c hc => (Word.plain h c hc).1
  | _ => trivial

/-- An expression made of words of the library and texts of the caller, kept apart. -/
structure Expr.Safe (U : String → Prop) (e : Expr) : Prop where
  /-- the texts are where they belong -/
  leaves : ∀ leaf ∈ e.leaves, leaf.From U
  /-- quoted texts do not touch -/
  apart : Leaf.Apart .rowStore e.leaves

/-! ## Leaves that are kept apart -/

namespace Leaf

variable {family : Family}

/-- **Plain text keeps what stands on either side apart.** -/
theorem apart_separated {left right : List Leaf} {text : String} (hl : Apart family left)
    (hr : Apart family right) (htext : text ≠ "") :
    Apart family (left ++ .raw text :: right) := by
  have hvisible : visible (left ++ .raw text :: right) =
      visible left ++ .raw text :: visible right := by
    rw [visible, List.filter_append, ← visible, ← visible, visible_cons_of_ne]
    intro h
    exact htext (Leaf.raw.inj h)
  rw [Apart, hvisible, List.isChain_append, List.isChain_cons]
  refine ⟨hl, ⟨fun next _ => ?_, hr⟩, fun last _ next hnext => ?_⟩
  · rintro ⟨hmark, -⟩
    exact hmark rfl
  · obtain rfl := Option.some.inj hnext
    rintro ⟨hmark, heq⟩
    exact hmark heq

theorem apart_nil : Apart family [] := List.IsChain.nil

/-- Text may stand behind anything. -/
theorem apart_append_textLeaves {left : List Leaf} (hl : Apart family left) (text : String) :
    Apart family (left ++ Template.textLeaves text) := by
  rw [Template.textLeaves]
  split
  · rw [List.append_nil]
    exact hl
  · next h => exact apart_separated hl apart_nil h

/-- And in front of anything. -/
theorem apart_textLeaves_append {right : List Leaf} (hr : Apart family right) (text : String) :
    Apart family (Template.textLeaves text ++ right) := by
  rw [Template.textLeaves]
  split
  · exact hr
  · next h => exact apart_separated apart_nil hr h

/-- Arguments are kept apart by the texts between them, if there are any. -/
theorem apart_weave {args : List Expr} {texts : List String}
    (hargs : ∀ arg ∈ args, Apart family arg.leaves)
    (htexts : ∀ text ∈ texts.dropLast, text ≠ "") :
    Apart family (Template.weave args texts) := by
  induction args generalizing texts with
  | nil => exact apart_nil
  | cons arg args ih =>
    have harg := hargs arg (List.mem_cons_self ..)
    have hrest := List.forall_mem_of_forall_mem_cons hargs
    cases texts with
    | nil => exact apart_nil
    | cons text texts =>
      rw [Template.weave]
      cases texts with
      | nil =>
        -- the last argument: nothing has to stand behind it
        have hweave : Template.weave args [] = [] := by cases args <;> rfl
        rw [hweave, List.append_nil]
        exact apart_append_textLeaves harg text
      | cons next texts =>
        -- any other one: the text behind it is not empty
        rw [List.dropLast_cons_cons] at htexts
        have htext := htexts text (List.mem_cons_self ..)
        rw [Template.textLeaves, if_neg htext, List.append_assoc]
        exact apart_separated harg (ih hrest (List.forall_mem_of_forall_mem_cons htexts)) htext

end Leaf

namespace Template

variable {U : String → Prop}

theorem from_of_mem_textLeaves {text : String} (h : text = "" ∨ Word text) :
    ∀ leaf ∈ textLeaves text, leaf.From U := by
  intro leaf hleaf
  rw [textLeaves] at hleaf
  split at hleaf
  · cases hleaf
  · next hne =>
    rw [List.mem_singleton.mp hleaf]
    exact h.resolve_left hne

theorem from_of_mem_weave {args : List Expr} {texts : List String}
    (hargs : ∀ arg ∈ args, ∀ leaf ∈ arg.leaves, leaf.From U)
    (htexts : ∀ text ∈ texts, text = "" ∨ Word text) :
    ∀ leaf ∈ weave args texts, leaf.From U := by
  induction args generalizing texts with
  | nil => exact List.forall_mem_nil _
  | cons arg args ih =>
    cases texts with
    | nil => exact List.forall_mem_nil _
    | cons text texts =>
      intro leaf hleaf
      rw [weave] at hleaf
      rcases List.mem_append.mp hleaf with hleaf | hleaf
      · rcases List.mem_append.mp hleaf with hleaf | hleaf
        · exact hargs arg (List.mem_cons_self ..) leaf hleaf
        · exact from_of_mem_textLeaves (htexts text (List.mem_cons_self ..)) leaf hleaf
      · exact ih (List.forall_mem_of_forall_mem_cons hargs)
          (List.forall_mem_of_forall_mem_cons htexts) leaf hleaf

end Template

namespace Expr.Safe

open Template

variable {U : String → Prop}

theorem not_brace {text : String} (h : text = "" ∨ Word text) : '{' ∉ text.toList := by
  intro hbrace
  rcases h with rfl | h
  · cases hbrace
  · exact (h.plain _ hbrace).2 rfl

/-- **Templates spelled with words make safe expressions.** Only behind the last slot, and in front
of the first one, there may be nothing. -/
theorem construct {kind : ExprKind} {head : String} {tails : List String} {args : List Expr}
    {e : Expr} (hhead : head = "" ∨ Word head) (htails : ∀ text ∈ tails, text = "" ∨ Word text)
    (hgaps : ∀ text ∈ tails.dropLast, text ≠ "") (hargs : ∀ arg ∈ args, arg.Safe U)
    (h : Expr.construct kind (spell head tails) args = .ok e) : e.Safe U := by
  have hleaves := leaves_of_construct (not_brace hhead)
    (fun text htext => not_brace (htails text htext)) h
  refine ⟨fun leaf hleaf => ?_, ?_⟩
  · rw [hleaves] at hleaf
    rcases List.mem_append.mp hleaf with hleaf | hleaf
    · exact from_of_mem_textLeaves hhead leaf hleaf
    · exact from_of_mem_weave (fun arg harg => (hargs arg harg).leaves) htails leaf hleaf
  · rw [hleaves]
    exact Leaf.apart_textLeaves_append
      (Leaf.apart_weave (fun arg harg => (hargs arg harg).apart) hgaps) head

/-- One slot between two words. -/
theorem around {kind : ExprKind} {before after : String} {arg e : Expr} (hbefore : Word before)
    (hafter : Word after) (harg : arg.Safe U)
    (h : Expr.construct kind (before ++ slot ++ after) [arg] = .ok e) : e.Safe U := by
  have htails : ∀ text ∈ [after], text = "" ∨ Word text :=
    List.forall_mem_singleton.mpr (.inr hafter)
  exact construct (.inr hbefore) htails (List.forall_mem_nil _)
    (List.forall_mem_singleton.mpr harg) h

/-- A row of slots with a separator. Without slots the texts around it are next to each other. -/
theorem row {kind : ExprKind} {before separator after : String} {args : List Expr} {e : Expr}
    (hbefore : before = "" ∨ Word before) (hseparator : Word separator) (hne : separator ≠ "")
    (hafter : after = "" ∨ Word after)
    (hempty : args = [] → before ++ after = "" ∨ Word (before ++ after))
    (hargs : ∀ arg ∈ args, arg.Safe U)
    (h : Expr.construct kind (before ++ slots args.length separator ++ after) args = .ok e) :
    e.Safe U := by
  cases args with
  | nil =>
    rw [List.length_nil, slots_zero_eq_spell] at h
    refine construct (hempty rfl) (fun text htext => ?_) (fun text htext => ?_) hargs h
    · cases htext
    · cases htext
  | cons arg args =>
    rw [List.length_cons, slots_eq_spell] at h
    exact construct hbefore (forall_mem_row (.inr hseparator) hafter _)
      (@forall_mem_gaps (· ≠ "") separator after hne _) hargs h

/-! ## Single leaves -/

/-- An expression with one leaf, from where it belongs. -/
theorem of_leaf {e : Expr} {leaf : Leaf} (he : e.leaves = [leaf]) (h : leaf.From U) :
    e.Safe U := by
  refine ⟨?_, ?_⟩
  · rw [he]
    exact List.forall_mem_singleton.mpr h
  · rw [he, Leaf.Apart, Leaf.visible, List.filter_cons]
    split
    · exact List.IsChain.singleton leaf
    · exact List.IsChain.nil

theorem column {name : String} (h : U name) : (Expr.column name).Safe U :=
  of_leaf rfl h

theorem identifier {name : String} (h : (Leaf.identifier name).From U) :
    (Expr.identifier name).Safe U :=
  of_leaf rfl h

theorem raw {text : String} (h : Word text) : (Expr.raw text).Safe U :=
  of_leaf rfl h

theorem constant {text : String} (h : Word text) : (Expr.constant text).Safe U :=
  of_leaf rfl h

theorem string {value : String} (h : U value) : (Expr.string value).Safe U :=
  of_leaf rfl h

theorem empty : Expr.empty.Safe U := by
  refine ⟨fun leaf hleaf => ?_, Leaf.apart_nil⟩
  cases hleaf

/-- A literal is a number or truth value as it stands, or a quoted text of the caller. -/
theorem literal {value : Literal} {e : Expr} (htext : ∀ text, value = .string text → U text)
    (h : value.expr = .ok e) : e.Safe U := by
  cases value with
  | int value =>
    obtain rfl := Except.ok.inj h
    exact constant (.int _)
  | float value =>
    rw [Literal.expr] at h
    split at h
    · next hfinite =>
      obtain rfl := Except.ok.inj h
      exact constant (.float hfinite)
    · cases h
  | string value =>
    obtain rfl := Except.ok.inj h
    exact string (htext value rfl)
  | bool value =>
    cases value <;> obtain rfl := Except.ok.inj h <;> exact constant (.fixed (by decide))

theorem countArg (n : UInt32) : (WindowCall.countArg n).Safe U :=
  constant (.nat _)

/-! ## Calls and rows -/

theorem aggregate {f : Aggregate} {e call : Expr} (he : e.Safe U)
    (h : Expr.construct .aggregate f.template [e] = .ok call) : call.Safe U := by
  cases f <;> exact around (.fixed (by decide)) .closing he h

theorem call {f : WindowFunction} {args : List Expr} {e : Expr}
    (hargs : ∀ arg ∈ args, arg.Safe U) (h : f.call args = .ok e) : e.Safe U :=
  row (.inr (.call f)) .comma (by decide) (.inr .closing) (fun _ => .inr (.emptyCall f)) hargs h

theorem compared {op : Comparison} {left right e : Expr} (hl : left.Safe U) (hr : right.Safe U)
    (h : Expr.construct .regular ("(" ++ slot ++ ") " ++ op.symbol ++ " (" ++ slot ++ ")")
      [left, right] = .ok e) : e.Safe U := by
  rw [op.template_eq_spell] at h
  refine construct (.inr .opening) ?_ ?_ ?_ h
  · exact List.forall_mem_cons.mpr
      ⟨.inr (.operator op), List.forall_mem_singleton.mpr (.inr .closing)⟩
  · refine List.forall_mem_singleton.mpr fun hempty => ?_
    have hlength := congrArg String.length hempty
    simp [String.length_append] at hlength
  · exact List.forall_mem_cons.mpr ⟨hl, List.forall_mem_singleton.mpr hr⟩

theorem aliased {e next : Expr} {name : String} (he : e.Safe U)
    (hname : (Leaf.identifier name).From U) (h : e.aliased name = .ok next) : next.Safe U := by
  have htails : ∀ text ∈ [" as ", ""], text = "" ∨ Word text := by
    refine List.forall_mem_cons.mpr ⟨.inr (.fixed (by decide)), ?_⟩
    exact List.forall_mem_singleton.mpr (.inl rfl)
  refine construct (.inl rfl) htails (by decide) ?_ h
  exact List.forall_mem_cons.mpr ⟨he, List.forall_mem_singleton.mpr (identifier hname)⟩

/-- Expressions with a separator between them. -/
theorem join {exprs : List Expr} {separator : String} {e : Expr} (hseparator : Word separator)
    (hne : separator ≠ "") (hexprs : ∀ e ∈ exprs, e.Safe U)
    (h : Expr.join exprs separator = .ok e) : e.Safe U := by
  refine @row U .regular "" separator "" exprs e (.inl rfl) hseparator hne (.inl rfl)
    (fun _ => .inl rfl) hexprs ?_
  rw [String.empty_append, String.append_empty]
  exact h

/-! ## Orders and windows -/

/-- The texts behind the slots of an order are words. -/
theorem word_of_mem_texts {order : List SortKey} {text : String} (h : text ∈ SortKey.texts order) :
    Word text ∧ text ≠ "" := by
  have hsuffix : ∀ key : SortKey, key.suffix = " asc" ∨ key.suffix = " desc" := by
    rintro ⟨e, ascending⟩
    cases ascending
    · exact .inr rfl
    · exact .inl rfl
  have hlast : ∀ key : SortKey, Word key.suffix ∧ key.suffix ≠ "" := by
    intro key
    rcases hsuffix key with h | h <;> rw [h] <;> exact ⟨.fixed (by decide), by decide⟩
  have hinner : ∀ key : SortKey, Word (key.suffix ++ ", ") ∧ key.suffix ++ ", " ≠ "" := by
    intro key
    rcases hsuffix key with h | h <;> rw [h] <;> exact ⟨.fixed (by decide), by decide⟩
  induction order with
  | nil => cases h
  | cons key rest ih =>
    cases rest with
    | nil =>
      rw [List.mem_singleton.mp h]
      exact hlast key
    | cons next rest =>
      rw [SortKey.texts] at h
      · rcases List.mem_cons.mp h with rfl | h
        · exact hinner key
        · exact ih h
      · exact List.cons_ne_nil _ _

/-- An order, after a word that introduces it or none. -/
theorem order {keys : List SortKey} {head : String} {e : Expr} (hhead : head = "" ∨ Word head)
    (hkeys : ∀ key ∈ keys, key.expr.Safe U) (hne : keys ≠ [])
    (h : Expr.construct .regular (head ++ SortKey.templates keys) (keys.map SortKey.expr) =
      .ok e) : e.Safe U := by
  rw [SortKey.templates_eq_spell head keys hne] at h
  refine construct hhead (fun text htext => .inr (word_of_mem_texts htext).1)
    (fun text htext => (word_of_mem_texts (List.dropLast_subset _ htext)).2) (fun arg harg => ?_) h
  obtain ⟨key, hkey, rfl⟩ := List.mem_map.mp harg
  exact hkeys key hkey

theorem partitionPart {w : Window} {columns : List Expr}
    (hcolumns : ∀ e ∈ Columns.groupExprs w.columns, e.Safe U)
    (h : w.partitionPart = .ok columns) : ∀ e ∈ columns, e.Safe U := by
  rw [Window.partitionPart] at h
  split at h
  · obtain rfl := Except.ok.inj h
    exact List.forall_mem_nil _
  · obtain ⟨part, hpart, rfl⟩ := Outcome.map_eq_ok h
    refine List.forall_mem_singleton.mpr ?_
    have hword : Word "partition by " := .fixed (by decide)
    refine @row U .regular "partition by " ", " "" _ _ (.inr hword) .comma (by decide) (.inl rfl)
      (fun _ => ?_) hcolumns ?_
    · rw [String.append_empty]
      exact .inr hword
    · rw [String.append_empty]
      exact hpart

theorem orderPart {w : Window} {exprs : List Expr}
    (horder : ∀ key ∈ w.spec.order, key.expr.Safe U) (h : w.orderPart = .ok exprs) :
    ∀ e ∈ exprs, e.Safe U := by
  rw [Window.orderPart] at h
  split at h
  · obtain rfl := Except.ok.inj h
    exact List.forall_mem_nil _
  · next hne =>
    obtain ⟨part, hpart, rfl⟩ := Outcome.map_eq_ok h
    have hword : Word "order by " := .fixed (by decide)
    refine List.forall_mem_singleton.mpr (order (.inr hword) horder ?_ hpart)
    exact fun hnil => hne (List.isEmpty_iff.mpr hnil)

theorem framePart {w : Window} (hclause : w.spec.clause = "" ∨ Word w.spec.clause) :
    ∀ e ∈ w.framePart, e.Safe U := by
  rw [Window.framePart]
  split
  · exact List.forall_mem_nil _
  · next hne =>
    refine List.forall_mem_singleton.mpr (raw (hclause.resolve_left fun hnil => hne ?_))
    rw [hnil]
    rfl

/-- The `over` clause: what the rows are divided by, their order and the frame. -/
theorem overClause {w : Window} {e : Expr}
    (hcolumns : ∀ e ∈ Columns.groupExprs w.columns, e.Safe U)
    (horder : ∀ key ∈ w.spec.order, key.expr.Safe U)
    (hclause : w.spec.clause = "" ∨ Word w.spec.clause) (h : w.over = .ok e) : e.Safe U := by
  obtain ⟨columns, hc, h⟩ := Outcome.bind_eq_ok h
  obtain ⟨keys, hk, h⟩ := Outcome.bind_eq_ok h
  obtain ⟨inner, hi, h⟩ := Outcome.bind_eq_ok h
  have hinner : inner.Safe U := by
    refine join .space (by decide) (fun e he => ?_) hi
    rcases List.mem_append.mp he with he | he
    · rcases List.mem_append.mp he with he | he
      · exact partitionPart hcolumns hc e he
      · exact orderPart horder hk e he
    · exact framePart hclause e he
  exact around (.fixed (by decide)) .closing hinner h

/-- A call over a window, guarded by a count where the frame has to hold enough rows. -/
theorem apply {w : Window} {call e : Expr} (hover : ∀ {clause}, w.over = .ok clause → clause.Safe U)
    (hcall : call.Safe U) (h : w.apply call = .ok e) : e.Safe U := by
  obtain ⟨clause, hclause, h⟩ := Outcome.bind_eq_ok h
  have hover := hover hclause
  split at h
  · -- no least number of rows, so no guard
    have htails : ∀ text ∈ [" ", ""], text = "" ∨ Word text :=
      List.forall_mem_cons.mpr ⟨.inr .space, List.forall_mem_singleton.mpr (.inl rfl)⟩
    refine construct (.inl rfl) htails (by decide) ?_ h
    exact List.forall_mem_cons.mpr ⟨hcall, List.forall_mem_singleton.mpr hover⟩
  · rw [Window.guardTemplate_eq_spell] at h
    refine construct (.inr (.fixed (by decide))) ?_ ?_ ?_ h
    · have hend : Word " else NULL end" := .fixed (by decide)
      exact List.forall_mem_cons.mpr ⟨.inr (.threshold _), List.forall_mem_cons.mpr
        ⟨.inr .space, List.forall_mem_singleton.mpr (.inr hend)⟩⟩
    · refine List.forall_mem_cons.mpr ⟨fun hempty => ?_, List.forall_mem_singleton.mpr (by decide)⟩
      have hlength := congrArg String.length hempty
      simp [Window.threshold, String.length_append] at hlength
    · exact List.forall_mem_cons.mpr ⟨hover, List.forall_mem_cons.mpr
        ⟨hcall, List.forall_mem_singleton.mpr hover⟩⟩

end Expr.Safe

end QueryFrame
