import QueryFrame.Proofs.Leaves

/-!
# Reading SQL text back

A reader of SQL text goes from left to right. Outside quotes a mark of the dialect opens a quoted
token. Inside, the token ends at the first mark that is not escaped: an escape character takes the
next character with it, and where the mark is its own escape character, only a second mark behind
it makes it one. `scan` is that reader, and `QuoteStyle.unescape` takes the escapes out of what it
found between two marks.

The one fact that carries the reading of a whole text is `QuoteStyle.cut_body`: behind an opening
mark, the body that quoting wrote ends where it was closed, provided what follows does not prolong
the token (`QuoteStyle.Ends`). So it is read as it is, and reading goes on with what follows
(`scanQuoted_body`). The proviso only has substance where the mark escapes itself, so there two
quoted tokens must not touch.

Reading loses nothing (`written_of_scan`), so its lexemes are a way to cut the text up.
-/

namespace QueryFrame

/-! ## The reader -/

/-- A part of SQL text as it is written. -/
inductive Lexeme where
  /-- text outside quotes -/
  | plain (text : List Char)
  /-- what stands between two marks, escapes included -/
  | quoted (style : QuoteStyle) (body : List Char)
  deriving DecidableEq

/-- The ways in which a family of engines quotes. Columnar engines also accept strings between
double quotes, though none are written. -/
def Family.quotes (family : Family) : List QuoteStyle :=
  match family with
  | .rowStore => [family.nameQuotes, family.stringQuotes]
  | .columnarAnalytics => [family.nameQuotes, family.stringQuotes, ⟨'"', '\\'⟩]

/-- How a token is quoted that the character opens, if it opens one. -/
def Family.opening? (family : Family) (c : Char) : Option QuoteStyle :=
  family.quotes.find? fun style => style.mark = c

namespace QuoteStyle

/-- Whether a character takes the next one with it, so that neither ends the token. -/
def escapes (style : QuoteStyle) (c next : Char) : Bool :=
  c = style.escape && (style.escape ≠ style.mark || next = style.mark)

/-- The content of a token, from what stands between its marks. -/
def unescape (style : QuoteStyle) : List Char → List Char
  | c :: next :: rest =>
    if c = style.escape then next :: unescape style rest
    else c :: unescape style (next :: rest)
  | text => text

/-- Whether a token ends where `rest` begins. A mark there would prolong it if the mark is its own
escape character. -/
def Ends (style : QuoteStyle) (rest : List Char) : Prop :=
  style.escape = style.mark → rest.head? ≠ some style.mark

end QuoteStyle

/-- One more character of plain text in front. -/
def Lexeme.pushPlain (c : Char) : List Lexeme → List Lexeme
  | .plain text :: rest => .plain (c :: text) :: rest
  | rest => .plain [c] :: rest

mutual

/-- Reads text from a place outside quotes. A quoted token that is never closed is no text. -/
def scan (family : Family) : List Char → Option (List Lexeme)
  | [] => some []
  | c :: rest =>
    match family.opening? c with
    | some style =>
      (scanQuoted family style rest).map fun (body, later) => .quoted style body :: later
    | none => (scan family rest).map (Lexeme.pushPlain c)

/-- Reads text from a place inside quotes: the rest of the token, and what follows it. -/
def scanQuoted (family : Family) (style : QuoteStyle) :
    List Char → Option (List Char × List Lexeme)
  | [] => none
  | [c] => if c = style.mark then some ([], []) else none
  | c :: next :: rest =>
    if style.escapes c next then
      (scanQuoted family style rest).map fun (body, later) => (c :: next :: body, later)
    else if c = style.mark then (scan family (next :: rest)).map fun later => ([], later)
    else (scanQuoted family style (next :: rest)).map fun (body, later) => (c :: body, later)

end

/-- The text of a lexeme. -/
def Lexeme.written : Lexeme → List Char
  | .plain text => text
  | .quoted style body => style.mark :: (body ++ [style.mark])

/-- What a reader takes a lexeme for. -/
def Lexeme.read : Lexeme → Piece
  | .plain text => .plain text
  | .quoted style body => .quoted style (style.unescape body)

/-- What a reader takes a text for. -/
def readSql (family : Family) (text : List Char) : Option (List Piece) :=
  (scan family text).map (List.map Lexeme.read)

/-! ## Nothing is lost in reading -/

@[simp] theorem Lexeme.flatMap_written_pushPlain (c : Char) (later : List Lexeme) :
    (pushPlain c later).flatMap written = c :: later.flatMap written := by
  cases later with
  | nil => rfl
  | cons lexeme rest => cases lexeme <;> rfl

/-- A token is opened by its mark. -/
theorem Family.mark_of_opening? {family : Family} {c : Char} {style : QuoteStyle}
    (h : family.opening? c = some style) : style.mark = c := by
  have := List.find?_some h
  simpa using this

mutual

/-- The lexemes of a text, side by side, are the text. -/
theorem written_of_scan (family : Family) :
    (text : List Char) → (lexemes : List Lexeme) → scan family text = some lexemes →
      lexemes.flatMap Lexeme.written = text
  | [], lexemes, h => by
    rw [scan, Option.some.injEq] at h
    rw [← h]
    rfl
  | c :: rest, lexemes, h => by
    rw [scan] at h
    split at h
    · next style hopen =>
      obtain ⟨⟨body, later⟩, hquoted, rfl⟩ := Option.map_eq_some_iff.mp h
      have ih := written_of_scanQuoted family style rest body later hquoted
      simp only [List.flatMap_cons, Lexeme.written, Family.mark_of_opening? hopen, List.cons_append,
        List.append_assoc, List.nil_append]
      rw [← ih, Family.mark_of_opening? hopen]
    · next hopen =>
      obtain ⟨later, hlater, rfl⟩ := Option.map_eq_some_iff.mp h
      rw [Lexeme.flatMap_written_pushPlain, written_of_scan family rest later hlater]

theorem written_of_scanQuoted (family : Family) (style : QuoteStyle) :
    (text body : List Char) → (later : List Lexeme) →
      scanQuoted family style text = some (body, later) →
      body ++ style.mark :: later.flatMap Lexeme.written = text
  | [], body, later, h => by cases h
  | [c], body, later, h => by
    rw [scanQuoted] at h
    split at h
    · next hc =>
      obtain ⟨rfl, rfl⟩ := Prod.mk.inj (Option.some.inj h)
      rw [hc]
      rfl
    · cases h
  | c :: next :: rest, body, later, h => by
    rw [scanQuoted] at h
    split at h
    · obtain ⟨⟨body', later'⟩, hrest, heq⟩ := Option.map_eq_some_iff.mp h
      obtain ⟨rfl, rfl⟩ := Prod.mk.inj heq
      rw [List.cons_append, List.cons_append,
        written_of_scanQuoted family style rest body' later' hrest]
    · split at h
      · next hc =>
        obtain ⟨later', hrest, heq⟩ := Option.map_eq_some_iff.mp h
        obtain ⟨rfl, rfl⟩ := Prod.mk.inj heq
        rw [List.nil_append, written_of_scan family (next :: rest) later' hrest, hc]
      · obtain ⟨⟨body', later'⟩, hrest, heq⟩ := Option.map_eq_some_iff.mp h
        obtain ⟨rfl, rfl⟩ := Prod.mk.inj heq
        rw [List.cons_append, written_of_scanQuoted family style (next :: rest) body' later' hrest]

end

/-! ## Quoted tokens -/

namespace QuoteStyle

variable {style : QuoteStyle}

/-- Taking the escapes out undoes putting them in. -/
theorem unescape_body (style : QuoteStyle) (text : List Char) :
    style.unescape (style.body text) = text := by
  induction text with
  | nil => rfl
  | cons c text ih =>
    rw [body_cons, escaped]
    split
    · next hc =>
      simp only [List.cons_append, List.nil_append, unescape, if_true, ih]
    · next hc =>
      rw [not_or] at hc
      rw [List.cons_append, List.nil_append]
      cases hb : style.body text with
      | nil => rw [hb] at ih; rw [← ih]; rfl
      | cons next rest =>
        rw [hb] at ih
        rw [unescape, if_neg hc.2, ih]

/-- A mark ends its token when what follows does not prolong it. -/
theorem Ends.not_escapes {next : Char} {rest : List Char} (h : style.Ends (next :: rest)) :
    style.escapes style.mark next = false := by
  rw [escapes, Bool.and_eq_false_iff]
  by_cases he : style.escape = style.mark
  · have hnext : next ≠ style.mark := fun hn => h he (by rw [hn]; rfl)
    right
    simp [he, hnext]
  · left
    exact decide_eq_false fun hm => he hm.symm

end QuoteStyle

namespace QuoteStyle

/-- What stands between the marks of a token, from behind the opening one, and what follows it. -/
def cut (style : QuoteStyle) : List Char → Option (List Char × List Char)
  | [] => none
  | [c] => if c = style.mark then some ([], []) else none
  | c :: next :: rest =>
    if style.escapes c next then
      (cut style rest).map fun (body, later) => (c :: next :: body, later)
    else if c = style.mark then some ([], next :: rest)
    else (cut style (next :: rest)).map fun (body, later) => (c :: body, later)

/-- **A token ends where it was closed.** From inside a token, exactly the body that was written
stands before its end. -/
theorem cut_body (style : QuoteStyle) (text : List Char) {rest : List Char}
    (hends : style.Ends rest) :
    style.cut (style.body text ++ style.mark :: rest) = some (style.body text, rest) := by
  induction text with
  | nil =>
    rw [body_nil, List.nil_append]
    cases rest with
    | nil => simp [cut]
    | cons next rest =>
      rw [cut, if_neg (by rw [hends.not_escapes]; exact Bool.false_ne_true), if_pos rfl]
  | cons c text ih =>
    rw [body_cons, escaped]
    split
    · next hc =>
      -- an escaped character: the pair is taken at once
      have hpair : style.escapes style.escape c = true := by
        rw [escapes, Bool.and_eq_true]
        refine ⟨decide_eq_true rfl, ?_⟩
        rcases hc with hc | hc
        · rw [hc]; simp
        · by_cases he : style.escape = style.mark
          · simp [hc, he]
          · simp [he]
      simp only [List.cons_append, List.nil_append]
      rw [cut, if_pos hpair, ih]
      rfl
    · next hc =>
      -- any other character: there is one behind it, if only the closing mark
      rw [not_or] at hc
      have hplain :
          style.escapes c ((style.body text ++ style.mark :: rest).head?.getD c) = false := by
        rw [escapes, decide_eq_false hc.2, Bool.false_and]
      simp only [List.cons_append, List.nil_append]
      cases htail : style.body text ++ style.mark :: rest with
      | nil => exact absurd htail (by simp)
      | cons next tail =>
        rw [htail] at hplain ih
        rw [cut, if_neg (by rw [show style.escapes c next = false from hplain]; simp),
          if_neg hc.1, ih]
        rfl

end QuoteStyle

/-- Reading from inside a token takes what stands before its end, and goes on behind it. -/
theorem scanQuoted_eq (family : Family) (style : QuoteStyle) (text : List Char) :
    scanQuoted family style text =
      (style.cut text).bind fun (body, rest) =>
        (scan family rest).map fun later => (body, later) := by
  fun_induction style.cut text with
  | case1 => rfl
  | case2 =>
    rw [scanQuoted, if_pos rfl]
    simp [scan]
  | case3 c hmark =>
    rw [scanQuoted, if_neg hmark]
    rfl
  | case4 c next rest hpair ih =>
    rw [scanQuoted, if_pos hpair, ih]
    cases style.cut rest <;> simp [Function.comp_def]
  | case5 next rest hpair =>
    rw [scanQuoted, if_neg hpair, if_pos rfl]
    rfl
  | case6 c next rest hpair hmark ih =>
    rw [scanQuoted, if_neg hpair, if_neg hmark, ih]
    cases style.cut (next :: rest) <;> simp [Function.comp_def]

/-- **Quoted tokens are read whole.** From inside a token, reading takes exactly the body that was
written and goes on behind the closing mark. -/
theorem scanQuoted_body (family : Family) (style : QuoteStyle) (text : List Char)
    {rest : List Char} (hends : style.Ends rest) :
    scanQuoted family style (style.body text ++ style.mark :: rest) =
      (scan family rest).map fun later => (style.body text, later) := by
  rw [scanQuoted_eq, style.cut_body text hends]
  rfl

/-- A quoted token is read as one piece with the content it was written for. -/
theorem readSql_quoteOnto {family : Family} {style : QuoteStyle}
    (hopen : family.opening? style.mark = some style) (text : List Char) {rest : List Char}
    (hends : style.Ends rest) :
    readSql family (style.quoteOnto text rest) =
      (readSql family rest).map (Piece.push (.quoted style text)) := by
  rw [readSql, QuoteStyle.quoteOnto, scan, hopen]
  simp only [scanQuoted_body family style text hends, readSql, Option.map_map]
  congr 1
  funext later
  simp [Lexeme.read, QuoteStyle.unescape_body]

/-! ## Plain text -/

/-- Reading a lexeme commutes with putting a character of plain text in front. -/
theorem Lexeme.map_read_pushPlain (c : Char) (later : List Lexeme) :
    (pushPlain c later).map read = Piece.push (.plain [c]) (later.map read) := by
  cases later with
  | nil => rfl
  | cons lexeme rest => cases lexeme <;> rfl

/-- Text without marks is read as it stands. -/
theorem readSql_plain {family : Family} {text : List Char}
    (hplain : ∀ c ∈ text, family.opening? c = none) (rest : List Char) :
    readSql family (text ++ rest) = (readSql family rest).map (Piece.push (.plain text)) := by
  induction text with
  | nil =>
    cases h : readSql family rest with
    | none => rw [List.nil_append, h]; rfl
    | some pieces => rw [List.nil_append, h]; rfl
  | cons c text ih =>
    have hc := hplain c (List.mem_cons_self ..)
    have ih := ih fun d hd => hplain d (List.mem_cons_of_mem _ hd)
    rw [List.cons_append, readSql, scan, hc]
    simp only [Option.map_map]
    have hstep : (List.map Lexeme.read ∘ Lexeme.pushPlain c) =
        (Piece.push (.plain [c]) ∘ List.map Lexeme.read) := by
      funext later
      exact Lexeme.map_read_pushPlain c later
    rw [hstep, ← Option.map_map]
    change Option.map _ (readSql family (text ++ rest)) = _
    rw [ih, Option.map_map]
    congr 1
    funext pieces
    exact (Piece.push_plain_cons c text pieces).symm

end QueryFrame
