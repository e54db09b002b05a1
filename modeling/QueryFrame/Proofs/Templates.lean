import QueryFrame.Partition.Basic
import QueryFrame.Proofs.Leaves
import QueryFrame.Proofs.Outcome
import QueryFrame.Series.Comparison
import QueryFrame.Window.Basic

/-!
# Templates and what fills them

A template is spelled as a text and further texts, each behind a slot (`Template.spell`). Splitting
it splits each of the texts (`Template.parse_spell_eq`). As long as none of them has an opening
brace, or at least none has a slot, this gives the texts back (`Template.parse_spell`). So an
expression that is constructed from a spelled template has the leaves of its arguments, in order,
with the texts between them (`Expr.leaves_of_construct`).

The second half says how the library spells the templates that are put together from data: rows
with a separator, orders, lists of groupings, comparisons, and the guard of a window.
-/

namespace QueryFrame

namespace Template

/-- A template: the text before the first slot, and the text behind each slot. -/
def spell (head : String) : List String → String
  | [] => head
  | text :: rest => head ++ slot ++ spell text rest

/-- **A slot splits what is around it.** None begins in front of it and ends in it, since it starts
with the brace that opens one and not with the one that closes it. -/
theorem parse_append_slot (text rest : List Char) :
    parse (text ++ '{' :: '}' :: rest) =
      ⟨(parse text).head, (parse text).tail ++ (parse rest).head :: (parse rest).tail⟩ := by
  induction text using parse.induct with
  | case1 text ih =>
    rw [List.cons_append, List.cons_append, parse, ih, parse]
    rfl
  | case2 c text hslot ih =>
    rw [List.cons_append, parse, ih, parse]
    · exact hslot
    · intro behind hc htext
      cases text with
      | nil => cases htext
      | cons next text => exact hslot text hc (congrArg (· :: text) (List.cons.inj htext).1)
  | case3 =>
    rw [List.nil_append, parse]
    rfl

/-- **Splitting a spelled template** splits each of its texts, whatever braces are in them. -/
theorem parse_spell_eq (head : String) (tails : List String) :
    parse (spell head tails).toList =
      ⟨(parse head.toList).head, (parse head.toList).tail ++
        tails.flatMap fun text => (parse text.toList).head :: (parse text.toList).tail⟩ := by
  induction tails generalizing head with
  | nil =>
    rw [spell, List.flatMap_nil, List.append_nil]
  | cons text rest ih =>
    have hslot : slot.toList ++ (spell text rest).toList =
        '{' :: '}' :: (spell text rest).toList := rfl
    rw [spell, String.toList_append, String.toList_append, List.append_assoc, hslot,
      parse_append_slot, ih, List.flatMap_cons]
    rfl

/-- Text without a slot is not split. -/
theorem parse_of_slotless {text : List Char} (h : ¬ slot.toList <:+: text) :
    parse text = ⟨text, []⟩ := by
  induction text using parse.induct with
  | case1 rest => exact absurd (List.prefix_append slot.toList rest).isInfix h
  | case2 c rest hslot ih =>
    rw [parse, ih fun hrest => h (List.infix_cons hrest)]
    exact hslot
  | case3 => rfl

/-- And text with a slot is. -/
theorem tail_parse_eq_nil_iff {text : List Char} :
    (parse text).tail = [] ↔ ¬ slot.toList <:+: text := by
  constructor
  · rintro htail ⟨before, after, rfl⟩
    have hslot : before ++ slot.toList ++ after = before ++ '{' :: '}' :: after :=
      List.append_assoc ..
    rw [hslot, parse_append_slot] at htail
    exact List.append_ne_nil_of_right_ne_nil _ (List.cons_ne_nil _ _) htail
  · intro h
    rw [parse_of_slotless h]

theorem slotless_of_not_mem {text : List Char} (h : '{' ∉ text) : ¬ slot.toList <:+: text :=
  fun hslot => h (hslot.subset (List.mem_cons_self ..))

/-- **Splitting undoes spelling** where the texts have no slots of their own. -/
theorem parse_spell_of_slotless {head : String} {tails : List String}
    (hhead : ¬ slot.toList <:+: head.toList)
    (htails : ∀ text ∈ tails, ¬ slot.toList <:+: text.toList) :
    parse (spell head tails).toList = ⟨head.toList, tails.map String.toList⟩ := by
  have hsplit : (tails.flatMap fun text => (parse text.toList).head :: (parse text.toList).tail) =
      tails.map String.toList := by
    rw [List.map_eq_flatMap]
    refine List.flatMap_congr fun text htext => ?_
    rw [parse_of_slotless (htails text htext)]
  rw [parse_spell_eq, parse_of_slotless hhead, hsplit, List.nil_append]

/-- So it does where they have no opening brace. -/
theorem parse_spell {head : String} {tails : List String} (hhead : '{' ∉ head.toList)
    (htails : ∀ text ∈ tails, '{' ∉ text.toList) :
    parse (spell head tails).toList = ⟨head.toList, tails.map String.toList⟩ :=
  parse_spell_of_slotless (slotless_of_not_mem hhead) fun text htext =>
    slotless_of_not_mem (htails text htext)

/-- The leaf for a text of a template, none for no text. -/
def textLeaves (text : String) : List Leaf :=
  if text = "" then [] else [.raw text]

/-- Some text is one token. -/
theorem rawTokens_toList {text : String} (h : text ≠ "") : rawTokens text.toList = [.raw text] := by
  have hne : text.toList ≠ [] := fun hnil => h (String.toList_eq_nil_iff.mp hnil)
  rw [rawTokens, String.ofList_toList]
  exact hne

theorem allLeaves_rawTokens (text : String) :
    Token.allLeaves (rawTokens text.toList) = textLeaves text := by
  rw [textLeaves]
  split
  · next h =>
    rw [h]
    rfl
  · next h =>
    rw [rawTokens_toList h]
    rfl

/-- The leaves of the arguments, each followed by the text behind its slot. -/
def weave : List Expr → List String → List Leaf
  | arg :: args, text :: texts => arg.leaves ++ textLeaves text ++ weave args texts
  | _, _ => []

theorem allLeaves_fillTail (args : List Expr) (texts : List String) :
    Token.allLeaves (fillTail args (texts.map String.toList)) = weave args texts := by
  induction args generalizing texts with
  | nil => rfl
  | cons arg args ih =>
    cases texts with
    | nil => rfl
    | cons text texts =>
      rw [List.map_cons, fillTail, Token.allLeaves_cons, Token.allLeaves_append,
        allLeaves_rawTokens, ih, weave, List.append_assoc]
      rfl

end Template

namespace Expr

open Template

/-- Inversion for a construction: the parts fit the slots and fill them. -/
theorem construct_eq_ok {kind : ExprKind} {template : String} {args : List Expr} {e : Expr}
    (h : construct kind template args = .ok e) :
    (parse template.toList).tail.length = args.length ∧
      e = ⟨kind, (parse template.toList).fill args⟩ := by
  rw [construct] at h
  split at h
  · next hlength => exact ⟨hlength, (Except.ok.inj h).symm⟩
  · cases h

theorem kind_of_construct {kind : ExprKind} {template : String} {args : List Expr} {e : Expr}
    (h : construct kind template args = .ok e) : e.kind = kind := by
  rw [(construct_eq_ok h).2]

/-- **The leaves of a construction** are those of the arguments, with the texts of the template
between them. -/
theorem leaves_of_parse {kind : ExprKind} {template : String} {args : List Expr} {e : Expr}
    (h : construct kind template args = .ok e) :
    e.leaves = textLeaves (String.ofList (parse template.toList).head) ++
      weave args ((parse template.toList).tail.map String.ofList) := by
  obtain ⟨-, rfl⟩ := construct_eq_ok h
  rw [← allLeaves_rawTokens, ← allLeaves_fillTail, ← Token.allLeaves_append, String.toList_ofList,
    List.map_map, String.toList_comp_ofList, List.map_id]
  rfl

/-- If the template is spelled, its texts are those that it is spelled with. -/
theorem leaves_of_construct {kind : ExprKind} {head : String} {tails : List String}
    {args : List Expr} {e : Expr} (hhead : '{' ∉ head.toList)
    (htails : ∀ text ∈ tails, '{' ∉ text.toList)
    (h : construct kind (spell head tails) args = .ok e) :
    e.leaves = textLeaves head ++ weave args tails := by
  rw [leaves_of_parse h, parse_spell hhead htails, String.ofList_toList, List.map_map,
    String.ofList_comp_toList, List.map_id]

/-! ## Rows with a separator -/

/-- What holds of the separator and of the last text holds of every text behind a slot of a row. -/
theorem forall_mem_row {P : String → Prop} {separator last : String} (hseparator : P separator)
    (hlast : P last) (n : Nat) : ∀ text ∈ List.replicate n separator ++ [last], P text := by
  intro text htext
  rcases List.mem_append.mp htext with htext | htext
  · rw [List.eq_of_mem_replicate htext]
    exact hseparator
  · rw [List.mem_singleton.mp htext]
    exact hlast

/-- And what holds of the separator, of every text between two slots. -/
theorem forall_mem_gaps {P : String → Prop} {separator last : String} (hseparator : P separator)
    (n : Nat) : ∀ text ∈ (List.replicate n separator ++ [last]).dropLast, P text := by
  intro text htext
  rw [List.dropLast_concat] at htext
  rw [List.eq_of_mem_replicate htext]
  exact hseparator

/-- A row of slots between two texts. -/
theorem slots_eq_spell (n : Nat) (head separator last : String) :
    head ++ slots (n + 1) separator ++ last =
      spell head (List.replicate n separator ++ [last]) := by
  induction n generalizing head with
  | zero => rfl
  | succ n ih =>
    have hslots : slots (n + 2) separator = slot ++ separator ++ slots (n + 1) separator :=
      Text.joinWith_cons_cons separator slot slot (List.replicate n slot)
    rw [hslots, List.replicate_succ, List.cons_append, spell, ← ih separator]
    simp only [String.append_assoc]

/-- No slots between two texts. -/
theorem slots_zero_eq_spell (head separator last : String) :
    head ++ slots 0 separator ++ last = spell (head ++ last) [] := by
  rw [slots, List.replicate_zero, Text.joinWith_nil, String.append_empty, spell]

/-- A row of slots with nothing around it. -/
theorem slots_succ_eq_spell (n : Nat) (separator : String) :
    slots (n + 1) separator = spell "" (List.replicate n separator ++ [""]) := by
  rw [← slots_eq_spell, String.empty_append, String.append_empty]

/-- **A row has as many slots as were asked for**, and those in each of its separators besides. -/
theorem length_parse_slots (n : Nat) (separator : String) :
    (parse (slots (n + 1) separator).toList).tail.length =
      n + 1 + n * (parse separator.toList).tail.length := by
  have hnone : parse "".toList = ⟨[], []⟩ := rfl
  rw [slots_succ_eq_spell, parse_spell_eq, hnone, List.nil_append, List.flatMap_append,
    List.length_append, List.flatMap_singleton, hnone, List.length_flatMap, List.map_replicate,
    List.sum_replicate_nat, List.length_cons, List.length_singleton, Nat.mul_succ]
  omega

/-- A template takes as many arguments as it has slots. -/
theorem exists_construct_iff {kind : ExprKind} {template : String} {args : List Expr} :
    (∃ e, construct kind template args = .ok e) ↔
      (parse template.toList).tail.length = args.length :=
  ⟨fun ⟨_, h⟩ => (construct_eq_ok h).1, fun h => ⟨_, if_pos h⟩⟩

/-- **Expressions can be joined** if there is no slot in the separator, or nothing to separate. -/
theorem exists_join_iff {exprs : List Expr} {separator : String} :
    (∃ e, join exprs separator = .ok e) ↔
      exprs.length ≤ 1 ∨ ¬ slot.toList <:+: separator.toList := by
  rw [join, exists_construct_iff, ← tail_parse_eq_nil_iff, ← List.length_eq_zero_iff]
  cases exprs with
  | nil => exact iff_of_true rfl (.inl (Nat.zero_le 1))
  | cons first rest =>
    have hone : rest.length + 1 ≤ 1 ↔ rest.length = 0 := by omega
    rw [List.length_cons, length_parse_slots, Nat.add_eq_left, Nat.mul_eq_zero, hone]

/-- **The template of a join** is the separator, as it stands, behind each slot but the last. -/
theorem parse_slots_of_join {first : Expr} {rest : List Expr} {separator : String} {e : Expr}
    (h : join (first :: rest) separator = .ok e) :
    parse (slots (first :: rest).length separator).toList =
      ⟨[], (List.replicate rest.length separator ++ [""]).map String.toList⟩ := by
  have hempty : ¬ slot.toList <:+: "".toList := by decide
  rw [List.length_cons, slots_succ_eq_spell, parse_spell_of_slotless hempty]
  · rfl
  · rcases exists_join_iff.mp ⟨e, h⟩ with hlength | hseparator
    · obtain rfl := List.length_eq_zero_iff.mp (Nat.le_zero.mp (Nat.le_of_succ_le_succ hlength))
      exact List.forall_mem_singleton.mpr hempty
    · exact forall_mem_row hseparator hempty rest.length

end Expr

/-- A list of groupings puts parentheses around each slot. -/
theorem Partition.listTemplate_eq_spell (n : Nat) :
    Text.joinWith ", " (List.replicate (n + 1) ("(" ++ slot ++ ")")) =
      Template.spell "(" (List.replicate n "), (" ++ [")"]) := by
  induction n with
  | zero => rfl
  | succ n ih =>
    rw [List.replicate_succ, List.replicate_succ, Text.joinWith_cons_cons, ← List.replicate_succ,
      ih, List.replicate_succ, List.cons_append]
    cases n <;> simp only [Template.spell, List.replicate_zero, List.replicate_succ,
      List.nil_append, List.cons_append] <;> simp only [← String.append_assoc] <;> rfl

namespace SortKey

/-- What stands behind the slot of an order. -/
def suffix (key : SortKey) : String :=
  if key.ascending then " asc" else " desc"

/-- The texts behind the slots of an order. -/
def texts : List SortKey → List String
  | [] => []
  | [key] => [key.suffix]
  | key :: rest => (key.suffix ++ ", ") :: texts rest

theorem length_texts : (order : List SortKey) → (texts order).length = order.length
  | [] => rfl
  | [_] => rfl
  | _ :: next :: rest => by
    rw [texts, List.length_cons, length_texts (next :: rest)]
    · rfl
    · exact List.cons_ne_nil _ _

/-- An order has a slot for each key. -/
theorem templates_eq_spell (head : String) :
    (order : List SortKey) → order ≠ [] →
      head ++ templates order = Template.spell head (texts order)
  | [], h => absurd rfl h
  | [key], _ => by
    rw [texts, Template.spell, Template.spell, templates, List.map_singleton,
      Text.joinWith_singleton, template, suffix, String.append_assoc]
  | key :: next :: rest, _ => by
    have ih := templates_eq_spell (key.suffix ++ ", ") (next :: rest) (List.cons_ne_nil _ _)
    rw [texts, Template.spell, ← ih, templates, List.map_cons, List.map_cons,
      Text.joinWith_cons_cons, template, templates, List.map_cons, suffix]
    · simp only [String.append_assoc]
    · exact List.cons_ne_nil _ _

end SortKey

/-- The text between the threshold of a guard and the call. -/
def Window.threshold (minValues : UInt32) : String :=
  ") >= " ++ Number.Decimal.ofNat minValues.toNat ++ " then "

/-- A comparison has slots for its operands, each in parentheses. -/
theorem Comparison.template_eq_spell (op : Comparison) :
    "(" ++ slot ++ ") " ++ op.symbol ++ " (" ++ slot ++ ")" =
      Template.spell "(" [") " ++ op.symbol ++ " (", ")"] := by
  simp only [Template.spell, String.append_assoc]

/-- A guard has slots for the window, the call and the window again. -/
theorem Window.guardTemplate_eq_spell (minValues : UInt32) :
    guardTemplate minValues =
      Template.spell "case when (count(1) " [threshold minValues, " ", " else NULL end"] := by
  unfold guardTemplate threshold
  generalize Number.Decimal.ofNat minValues.toNat = digits
  simp only [Template.spell, String.append_assoc]

end QueryFrame
