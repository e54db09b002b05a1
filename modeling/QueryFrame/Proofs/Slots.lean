import QueryFrame.Error.Wording
import QueryFrame.Proofs.Parts
import QueryFrame.Proofs.Rendering

/-!
# Slots in any template

A template is any text. Its slots are where `{}` occurs in it, found from the left and without
overlap (`Text.Leftmost`), whatever other braces there are. There is one way to find them, and
splitting a template finds them so (`Text.Leftmost.unique`, `Template.leftmost_places`).

What is between the slots has none in it, and with slots in between it is the template again
(`Template.not_slot_infix_parse`, `Template.written_parse`). So an expression that is made of a
template and arguments has their number in slots, consists of the arguments and of the text between
the slots (`Expr.Fills`), and says the template with the text of an argument at the place of each
slot, where no such text is read as template again (`Expr.construct_fills_slots`).
-/

namespace QueryFrame

namespace Text

/-! ## Occurrences of a pattern -/

/-- Whether a pattern stands in a text at a place. -/
def OccursAt (pattern text : List Char) (place : ℕ) : Prop :=
  pattern <+: text.drop place

/-- The places where a pattern is found in a text, from some place on. Each is the leftmost that
does not overlap the one before it. -/
inductive Leftmost (pattern text : List Char) : ℕ → List ℕ → Prop
  /-- it does not occur any more -/
  | none {start : ℕ} (h : ∀ place, start ≤ place → ¬ OccursAt pattern text place) :
      Leftmost pattern text start []
  /-- it occurs, and is looked for again behind that occurrence -/
  | next {start place : ℕ} {places : List ℕ} (hstart : start ≤ place)
      (hplace : OccursAt pattern text place)
      (hfirst : ∀ other, start ≤ other → other < place → ¬ OccursAt pattern text other)
      (hrest : Leftmost pattern text (place + pattern.length) places) :
      Leftmost pattern text start (place :: places)

/-- The text from some place on, with something new instead of so many characters at each of the
places. -/
def replaceFrom (width : ℕ) (text : List Char) : ℕ → List (ℕ × String) → String
  | start, [] => String.ofList (text.drop start)
  | start, (place, new) :: rest =>
    String.ofList ((text.drop start).take (place - start)) ++ new ++
      replaceFrom width text (place + width) rest

/-- The text with something new instead of the pattern at each of the places. -/
def replaceAt (pattern text : String) (places : List ℕ) (news : List String) : String :=
  replaceFrom pattern.toList.length text.toList 0 (places.zip news)

namespace Leftmost

variable {pattern text : List Char} {start : ℕ} {places others : List ℕ}

/-- **A pattern is found in one way.** -/
theorem unique (h : Leftmost pattern text start places)
    (hothers : Leftmost pattern text start others) : others = places := by
  induction h generalizing others with
  | none hnone =>
    cases hothers with
    | none => rfl
    | next hstart hplace => exact absurd hplace (hnone _ hstart)
  | @next start place places hstart hplace hfirst hrest ih =>
    cases hothers with
    | none hnone => exact absurd hplace (hnone _ hstart)
    | @next _ other others hstart' hplace' hfirst' hrest' =>
      -- neither occurrence is to the left of the other
      have hle : place ≤ other := Nat.le_of_not_lt fun hlt => hfirst other hstart' hlt hplace'
      have hge : other ≤ place := Nat.le_of_not_lt fun hlt => hfirst' place hstart hlt hplace
      obtain rfl := Nat.le_antisymm hle hge
      rw [ih hrest']

/-- A place where it does not occur can be passed over. -/
theorem step (hnot : ¬ OccursAt pattern text start) (h : Leftmost pattern text (start + 1) places) :
    Leftmost pattern text start places := by
  have hpass {place : ℕ} (hstart : start ≤ place) (hplace : OccursAt pattern text place) :
      start + 1 ≤ place := by
    refine Nat.lt_of_le_of_ne hstart fun heq => ?_
    subst heq
    exact hnot hplace
  cases h with
  | none hnone => exact .none fun place hstart hplace => hnone place (hpass hstart hplace) hplace
  | next hstart hplace hfirst hrest =>
    refine .next (Nat.le_of_succ_le hstart) hplace (fun other hother hlt hoccurs => ?_) hrest
    exact hfirst other (hpass hother hoccurs) hlt hoccurs

end Leftmost

end Text

/-! ## Splitting a template -/

namespace Template

open Text

/-- A slot is an opening brace and a closing one. -/
theorem slot_prefix_iff {text : List Char} :
    slot.toList <+: text ↔ ∃ rest, text = '{' :: '}' :: rest := by
  constructor
  · rintro ⟨rest, rfl⟩
    exact ⟨rest, rfl⟩
  · rintro ⟨rest, rfl⟩
    exact ⟨rest, rfl⟩

/-- A template put together again. -/
def written (template : Template) : List Char :=
  template.head ++ template.tail.flatMap fun text => slot.toList ++ text

/-- **Putting a template together undoes splitting it.** -/
theorem written_parse (text : List Char) : (parse text).written = text := by
  induction text using parse.induct with
  | case1 rest ih =>
    rw [parse, written, List.flatMap_cons, List.nil_append, List.append_assoc]
    exact congrArg ('{' :: '}' :: ·) ih
  | case2 c rest hslot ih =>
    rw [parse, written, List.cons_append]
    · exact congrArg (c :: ·) ih
    · exact hslot
  | case3 => rfl

/-- **There is no slot left** in the text before the first slot, nor in any text behind a slot. -/
theorem not_slot_infix_parse (text : List Char) :
    ∀ part ∈ (parse text).head :: (parse text).tail, ¬ slot.toList <:+: part := by
  induction text using parse.induct with
  | case1 rest ih =>
    have hempty : ¬ slot.toList <:+: [] := by decide
    rw [parse]
    exact List.forall_mem_cons.mpr ⟨hempty, ih⟩
  | case2 c rest hslot ih =>
    obtain ⟨hhead, htail⟩ := List.forall_mem_cons.mp ih
    rw [parse]
    · refine List.forall_mem_cons.mpr ⟨fun hinfix => ?_, htail⟩
      rcases List.infix_cons_iff.mp hinfix with hprefix | hinfix
      · -- a slot at the front would have been one in the template
        obtain ⟨behind, hfront⟩ := slot_prefix_iff.mp hprefix
        obtain ⟨hc, hbehind⟩ := List.cons.inj hfront
        have hrest := written_parse rest
        rw [written, hbehind, List.cons_append] at hrest
        exact hslot _ hc hrest.symm
      · exact hhead hinfix
    · exact hslot
  | case3 => exact List.forall_mem_singleton.mpr (by decide)

/-- Where the slots of a template are, which begins at some place: behind the text in front of each
of them. -/
def places (start : ℕ) (head : List Char) : List (List Char) → List ℕ
  | [] => []
  | text :: texts =>
    (start + head.length) :: places (start + head.length + slot.toList.length) text texts

theorem length_places (start : ℕ) (head : List Char) (tail : List (List Char)) :
    (places start head tail).length = tail.length := by
  induction tail generalizing start head with
  | nil => rfl
  | cons text texts ih => rw [places, List.length_cons, ih, List.length_cons]

/-- A character more in front is a place further on. -/
theorem places_cons (start : ℕ) (c : Char) (head : List Char) (tail : List (List Char)) :
    places start (c :: head) tail = places (start + 1) head tail := by
  cases tail with
  | nil => rfl
  | cons text texts =>
    have hplace : start + (head.length + 1) = start + 1 + head.length := by omega
    rw [places, places, List.length_cons, hplace]

/-- **Splitting finds the slots from the left.** The induction is on what is left of the template
from a place on. -/
theorem leftmost_places {text suffix : List Char} {start : ℕ} (h : text.drop start = suffix) :
    Leftmost slot.toList text start (places start (parse suffix).head (parse suffix).tail) := by
  induction suffix using parse.induct generalizing start with
  | case1 rest ih =>
    have hrest : text.drop (start + slot.toList.length) = rest := by
      rw [← List.drop_drop, h]
      rfl
    rw [parse]
    refine .next le_rfl ?_ (fun other hstart hlt => absurd hlt (Nat.not_lt.mpr hstart)) (ih hrest)
    rw [OccursAt, List.length_nil, Nat.add_zero, h]
    exact slot_prefix_iff.mpr ⟨rest, rfl⟩
  | case2 c rest hslot ih =>
    have hrest : text.drop (start + 1) = rest := by
      rw [← List.drop_drop, h]
      rfl
    rw [parse]
    · rw [places_cons]
      refine .step (fun hoccurs => ?_) (ih hrest)
      rw [OccursAt, h, slot_prefix_iff] at hoccurs
      obtain ⟨behind, hbehind⟩ := hoccurs
      exact hslot behind (List.cons.inj hbehind).1 (List.cons.inj hbehind).2
    · exact hslot
  | case3 =>
    refine .none fun place hstart hplace => ?_
    have hnil : text.drop place = [] := by
      rw [← Nat.add_sub_cancel' hstart, ← List.drop_drop, h, List.drop_nil]
    rw [OccursAt, hnil, slot_prefix_iff] at hplace
    obtain ⟨rest, hrest⟩ := hplace
    cases hrest

/-- **To fill a template is to replace its slots.** The induction is on the texts behind the slots,
with the place that the template begins at left open. -/
theorem replaceFrom_places {text head : List Char} {tail : List (List Char)} {news : List String}
    {start : ℕ} (hnews : tail.length = news.length)
    (h : text.drop start = written ⟨head, tail⟩) :
    replaceFrom slot.toList.length text start ((places start head tail).zip news) =
      filled (String.ofList head) (tail.map String.ofList) news := by
  induction tail generalizing start head news with
  | nil =>
    obtain rfl := List.length_eq_zero_iff.mp hnews.symm
    rw [places, List.zip_nil_left, replaceFrom, h, written, List.flatMap_nil, List.append_nil]
    rfl
  | cons behind texts ih =>
    cases news with
    | nil => cases hnews
    | cons new news =>
      rw [written, List.flatMap_cons, List.append_assoc] at h
      have hrest : text.drop (start + head.length + slot.toList.length) =
          written ⟨behind, texts⟩ := by
        rw [← List.drop_drop, ← List.drop_drop, h, List.drop_left, List.drop_left]
        rfl
      rw [places, List.zip_cons_cons, replaceFrom, ih (Nat.succ.inj hnews) hrest, h,
        Nat.add_sub_cancel_left, List.take_left, List.map_cons, filled]

end Template

/-! ## The tokens of a construction -/

namespace Token

/-- Whether a token is text as it stands. -/
def IsRaw : Token → Prop
  | .raw _ => True
  | _ => False

/-- The tokens with a slot instead of each expression. Names and strings of their own do not come
from a template. -/
def outline : List Token → Option String
  | [] => some ""
  | .raw sql :: rest => (outline rest).map (sql ++ ·)
  | .nested _ _ :: rest => (outline rest).map (slot ++ ·)
  | _ => none

end Token

/-- Whether an expression is a template with arguments in its slots. -/
structure Expr.Fills (e : Expr) (template : String) (args : List Expr) : Prop where
  /-- with slots instead of the expressions in it, it is the template -/
  outline : Token.outline e.tokens = some template
  /-- these are the arguments, in their order -/
  parts : e.parts = args
  /-- its own text is never empty, and has no slot in it -/
  raw : ∀ sql, .raw sql ∈ e.tokens → sql ≠ "" ∧ ¬ slot.toList <:+: sql.toList
  /-- all of it between two expressions is one token -/
  apart : e.tokens.IsChain fun left right => left.IsRaw → ¬ right.IsRaw

namespace Template

theorem mem_rawTokens {text : List Char} {token : Token} :
    token ∈ rawTokens text ↔ text ≠ [] ∧ token = .raw (String.ofList text) := by
  cases text with
  | nil => exact iff_of_false List.not_mem_nil fun h => h.1 rfl
  | cons c rest => simp [rawTokens]

theorem outline_rawTokens_append (text : List Char) (tokens : List Token) :
    Token.outline (rawTokens text ++ tokens) =
      (Token.outline tokens).map (String.ofList text ++ ·) := by
  cases text with
  | nil =>
    rw [rawTokens, List.nil_append]
    cases Token.outline tokens with
    | none => rfl
    | some rest => exact congrArg some (String.empty_append).symm
  | cons c rest => rfl

theorem outline_fillTail {args : List Expr} {texts : List (List Char)}
    (h : texts.length = args.length) :
    Token.outline (fillTail args texts) =
      some (String.ofList (texts.flatMap fun text => slot.toList ++ text)) := by
  induction args generalizing texts with
  | nil =>
    obtain rfl := List.length_eq_zero_iff.mp h
    rfl
  | cons arg args ih =>
    cases texts with
    | nil => cases h
    | cons text texts =>
      rw [fillTail, Expr.token, Token.outline, outline_rawTokens_append, ih (Nat.succ.inj h),
        List.flatMap_cons, String.ofList_append, String.ofList_append, String.ofList_toList,
        String.append_assoc]
      rfl

theorem mem_fillTail {args : List Expr} {texts : List (List Char)} {token : Token}
    (h : token ∈ fillTail args texts) :
    (∃ arg ∈ args, token = arg.token) ∨ ∃ text ∈ texts, token ∈ rawTokens text := by
  induction args generalizing texts with
  | nil => cases h
  | cons arg args ih =>
    cases texts with
    | nil => cases h
    | cons text texts =>
      rcases List.mem_cons.mp h with rfl | h
      · exact .inl ⟨arg, List.mem_cons_self .., rfl⟩
      rcases List.mem_append.mp h with h | h
      · exact .inr ⟨text, List.mem_cons_self .., h⟩
      rcases ih h with ⟨other, hother, htoken⟩ | ⟨other, hother, htoken⟩
      · exact .inl ⟨other, List.mem_cons_of_mem _ hother, htoken⟩
      · exact .inr ⟨other, List.mem_cons_of_mem _ hother, htoken⟩

/-- Text goes in front of what begins with an expression. -/
theorem isChain_rawTokens_append (text : List Char) {tokens : List Token}
    (hfirst : ∀ token ∈ tokens.head?, ¬ token.IsRaw)
    (h : tokens.IsChain fun left right => left.IsRaw → ¬ right.IsRaw) :
    (rawTokens text ++ tokens).IsChain fun left right => left.IsRaw → ¬ right.IsRaw := by
  cases text with
  | nil => exact h
  | cons c rest =>
    rw [rawTokens, List.singleton_append]
    · exact h.cons fun token htoken _ => hfirst token htoken
    · exact List.cons_ne_nil _ _

theorem not_isRaw_head_fillTail (args : List Expr) (texts : List (List Char)) :
    ∀ token ∈ (fillTail args texts).head?, ¬ token.IsRaw := by
  cases args with
  | nil => rintro _ ⟨⟩
  | cons arg args =>
    cases texts with
    | nil => rintro _ ⟨⟩
    | cons text texts =>
      rintro _ ⟨⟩ ⟨⟩

theorem isChain_fillTail (args : List Expr) (texts : List (List Char)) :
    (fillTail args texts).IsChain fun left right => left.IsRaw → ¬ right.IsRaw := by
  induction args generalizing texts with
  | nil => exact .nil
  | cons arg args ih =>
    cases texts with
    | nil => exact .nil
    | cons text texts =>
      have hrest := isChain_rawTokens_append text (not_isRaw_head_fillTail args texts) (ih texts)
      exact hrest.cons fun _ _ hraw => nomatch hraw

end Template

/-! ## Constructions -/

namespace Expr

open Template Text

variable {kind : ExprKind} {template : String} {args : List Expr} {e : Expr}

/-- **A construction fills the slots of its template.** -/
theorem fills_of_construct (h : construct kind template args = .ok e) : e.Fills template args := by
  have hparts := parts_of_construct h
  obtain ⟨hlength, rfl⟩ := construct_eq_ok h
  refine ⟨?_, hparts, fun sql hsql => ?_, ?_⟩
  · have hwritten := written_parse template.toList
    rw [written] at hwritten
    rw [fill, outline_rawTokens_append, outline_fillTail hlength, Option.map_some,
      ← String.ofList_append, hwritten, String.ofList_toList]
  · have hpart : ∃ part ∈ (parse template.toList).head :: (parse template.toList).tail,
        .raw sql ∈ rawTokens part := by
      rcases List.mem_append.mp hsql with hhead | htail
      · exact ⟨_, List.mem_cons_self .., hhead⟩
      rcases mem_fillTail htail with ⟨arg, -, harg⟩ | ⟨part, hpart, hraw⟩
      · cases harg
      · exact ⟨part, List.mem_cons_of_mem _ hpart, hraw⟩
    obtain ⟨part, hpart, hraw⟩ := hpart
    obtain ⟨hne, htoken⟩ := mem_rawTokens.mp hraw
    obtain rfl := Token.raw.inj htoken
    rw [String.toList_ofList]
    refine ⟨fun hempty => hne ?_, not_slot_infix_parse _ part hpart⟩
    rw [← @String.toList_ofList part, hempty]
    rfl
  · exact isChain_rawTokens_append _ (not_isRaw_head_fillTail _ _) (isChain_fillTail _ _)

/-- **Constructions fill slots.** There is one way to find the slots of a template from the left
and without overlap. An expression of any kind is made of a template and arguments exactly if there
are as many slots as arguments, and otherwise the fault says how many there are of both. The
expression has the template for an outline and the arguments for parts. In every known dialect and
for any alias of the table it says the template, with the texts of the arguments at the places of
the slots. -/
theorem construct_fills_slots (kind : ExprKind) (template : String) (args : List Expr) :
    ∃ places, (∀ others, Leftmost slot.toList template.toList 0 others ↔ others = places) ∧
      ((∃ e, construct kind template args = .ok e) ↔ places.length = args.length) ∧
      (∀ fault, construct kind template args = .error fault →
        fault = .template (.slotMismatch template places.length args.length) ∧
        fault.code = "EXPRESSION_001" ∧
        fault.diagnostic.message = "Template " ++ quoted template ++ " has " ++
          places.length.repr ++ " placeholders but " ++ args.length.repr ++
          " arguments were given") ∧
      ∀ e, construct kind template args = .ok e →
        e.kind = kind ∧ e.Fills template args ∧
        ∀ d family table, d.family = .ok family →
          e.toSql d table =
            .ok (replaceAt slot template places (args.map (Expr.text ⟨family, table⟩))) := by
  have hlength : (places 0 (parse template.toList).head (parse template.toList).tail).length =
      (parse template.toList).tail.length := length_places _ _ _
  have hleftmost := @leftmost_places template.toList template.toList 0 rfl
  refine ⟨_, fun others => ⟨fun h => hleftmost.unique h, fun h => h ▸ hleftmost⟩, ?_, ?_, ?_⟩
  · rw [hlength]
    exact ⟨fun ⟨e, he⟩ => (construct_eq_ok he).1, fun h => ⟨_, if_pos h⟩⟩
  · intro fault hfault
    rw [hlength]
    rw [construct] at hfault
    split at hfault
    · cases hfault
    · obtain rfl := Except.error.inj hfault
      refine ⟨rfl, rfl, ?_⟩
      rw [← Number.Decimal.ofNat_eq_repr, ← Number.Decimal.ofNat_eq_repr]
      simp only [Error.diagnostic, TemplateFault.diagnostic, TemplateFault.counts,
        String.append_assoc]
  · intro e he
    refine ⟨kind_of_construct he, fills_of_construct he, fun d family table hd => ?_⟩
    have hargs : (parse template.toList).tail.length =
        (args.map (text ⟨family, table⟩)).length := by
      rw [List.length_map, (construct_eq_ok he).1]
    have hwritten : template.toList.drop 0 = (parse template.toList).written :=
      (written_parse _).symm
    rw [e.toSql_eq hd, text_of_parse he, replaceAt, replaceFrom_places hargs hwritten]

/-- Braces around and between slots, and one slot beside another. What is put into a slot may look
like one, and stays as it is. -/
theorem construct_fills_slots_braces :
    let template := "\x7b\x7b\x7d\x7b\x7d\x7d\x7b\x7d"
    let args := [raw slot, string "\x7b'\x7d", column "a"]
    Leftmost slot.toList template.toList 0 [1, 3, 6] ∧
      (∃ e, construct .window template args = .ok e ∧ e.Fills template args ∧
        e.toSql .bigQuery (some "t") =
          .ok "\x7b\x7b\x7d'\x7b\\'\x7d'\x7d`t`.`a`") ∧
      ∃ fault, construct .window template [raw slot] = .error fault ∧
        fault.code = "EXPRESSION_001" ∧ fault.diagnostic.message =
          "Template " ++ quoted template ++ " has 3 placeholders but 1 arguments were given" := by
  intro template args
  have hfound : Leftmost slot.toList template.toList 0 [1, 3, 6] := by
    have hplaces : Template.places 0 (Template.parse template.toList).head
        (Template.parse template.toList).tail = [1, 3, 6] := by decide +kernel
    rw [← hplaces]
    exact Template.leftmost_places rfl
  refine ⟨hfound, ?_, ?_⟩
  · obtain ⟨places, hplaces, hok, -, he⟩ := construct_fills_slots .window template args
    obtain rfl := (hplaces _).mp hfound
    obtain ⟨e, hconstruct⟩ := hok.mpr rfl
    obtain ⟨-, hfills, htext⟩ := he e hconstruct
    refine ⟨e, hconstruct, hfills, ?_⟩
    rw [htext _ _ _ rfl]
    decide +kernel
  · obtain ⟨places, hplaces, -, hfault, -⟩ := construct_fills_slots .window template [raw slot]
    obtain rfl := (hplaces _).mp hfound
    have hone : construct .window template [raw slot] =
        .error (.template (.slotMismatch template 3 1)) := by decide +kernel
    obtain ⟨-, hcode, hmessage⟩ := hfault _ hone
    exact ⟨_, hone, hcode, hmessage⟩

end Expr

end QueryFrame
