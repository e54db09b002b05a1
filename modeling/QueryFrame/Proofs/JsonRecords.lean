import QueryFrame.Proofs.JsonText

/-!
# Values of the library are stored without loss

A value that is written as JSON and read again is the same value, and so is the value of a text that
was read, written and read again (`Json.Restores`). With `Json.read?_write` all that is left to show
is that the reader of each type undoes its writer on JSON values.

A record is written as an object with a member for each field, in order and under different names,
so each field is found as given (`Json.fields?_ofMembers`). A field that may be absent is written as
`null` then, which is not the same as leaving it out, and so it does not come back as a default.
-/

namespace QueryFrame

namespace Json

open Number

/-! ## Records -/

/-- The members of one name, where names are different. -/
theorem membersNamed_map {members : List (String × Json)}
    (hnodup : (members.map Prod.fst).Nodup) {name : String} {value : Json}
    (h : (name, value) ∈ members) :
    membersNamed name (members.map fun member => (some member.1, member.2)) = [value] := by
  induction members with
  | nil => cases h
  | cons first rest ih =>
    obtain ⟨hfirst, hrest⟩ := List.nodup_cons.mp hnodup
    rw [membersNamed, List.map_cons, List.filter_cons]
    rcases List.mem_cons.mp h with rfl | h
    · -- no later member has its name
      have hnone : (rest.map fun member => (some member.1, member.2)).filter
          (fun member => member.1 = some name) = [] := by
        refine List.filter_eq_nil_iff.mpr fun member hmember => ?_
        obtain ⟨own, hown, rfl⟩ := List.mem_map.mp hmember
        have hne : own.1 ≠ name := by
          rintro rfl
          exact hfirst (List.mem_map.mpr ⟨own, hown, rfl⟩)
        simpa using hne
      simp [hnone]
    · have hne : first.1 ≠ name := by
        rintro rfl
        exact hfirst (List.mem_map.mpr ⟨_, h, rfl⟩)
      have ih := ih hrest h
      rw [membersNamed] at ih
      simp [hne, ih]

/-- **A record is found field by field** in the object that it is written as. -/
theorem fields?_ofMembers {members : List (String × Json)} {names : List String}
    (hnames : members.map Prod.fst = names) (hnodup : names.Nodup) :
    (ofMembers members).fields? names = some (members.map fun member => .given member.2) := by
  subst hnames
  have hnamed : (members.map fun member => (some member.1, member.2)).all
      (fun member => member.1.isSome) = true := by
    simp
  have hfields : ∀ rest : List (String × Json), (∀ member ∈ rest, member ∈ members) →
      (rest.map Prod.fst).mapM
          (memberField? (members.map fun member => (some member.1, member.2))) =
        some (rest.map fun member => .given member.2) := by
    intro rest hrest
    induction rest with
    | nil => rfl
    | cons member rest ih =>
      obtain ⟨hmember, hrest⟩ := List.forall_mem_cons.mp hrest
      rw [List.map_cons, List.mapM_cons, memberField?, membersNamed_map hnodup hmember, ih hrest]
      rfl
  rw [ofMembers, fields?, if_pos hnamed]
  exact hfields members fun _ => id

/-- A record of plain values is plain. -/
theorem plain_ofMembers {members : List (String × Json)}
    (h : ∀ member ∈ members, member.2.Plain) : (ofMembers members).Plain := by
  change MembersPlain (members.map fun member => (some member.1, member.2))
  induction members with
  | nil => trivial
  | cons first rest ih =>
    obtain ⟨hfirst, hrest⟩ := List.forall_mem_cons.mp h
    exact ⟨rfl, hfirst, ih hrest⟩

/-! ## Values -/

theorem plain_ofInt (n : Int) : (ofInt n).Plain := ⟨n, rfl⟩

theorem plain_ofString (text : String) : (ofString text).Plain := rfl

theorem plain_ofOption {α : Type} {write : α → Json} (h : ∀ value, (write value).Plain)
    (value : Option α) : (ofOption write value).Plain := by
  cases value with
  | none => trivial
  | some value => exact h value

@[simp] theorem string?_ofString (text : String) : (ofString text).string? = some text := rfl

theorem ofString_ne_null (text : String) : ofString text ≠ .null := by
  rintro ⟨⟩

theorem ofInt_ne_null (n : Int) : ofInt n ≠ .null := by
  rintro ⟨⟩

theorem ofMembers_ne_null (members : List (String × Json)) : ofMembers members ≠ .null := by
  rintro ⟨⟩

/-- A whole number is read as it was written. -/
theorem int?_ofInt (n : Int) : (ofInt n).int? = some n := by
  cases n with
  | ofNat n =>
    have hdigits : (Decimal.digits n).all Decimal.isDigit = true :=
      List.all_eq_true.mpr (Decimal.isDigit_of_mem_digits n)
    rw [ofInt, Decimal.signed, int?, if_pos hdigits, Decimal.value_digits]
    · rfl
    · intro digits hminus
      have hc := Decimal.isDigit_of_mem_digits n '-' (by rw [hminus]; exact List.mem_cons_self ..)
      exact absurd hc (by decide)
  | negSucc n =>
    have hdigits : (Decimal.digits (n + 1)).all Decimal.isDigit = true :=
      List.all_eq_true.mpr (Decimal.isDigit_of_mem_digits (n + 1))
    have hzero : Decimal.digits (n + 1) ≠ ['0'] := by
      intro hdigits
      have hvalue := Decimal.value_digits (n + 1)
      rw [hdigits] at hvalue
      cases hvalue
    rw [ofInt, Decimal.signed, int?, hdigits]
    simp [hzero, Decimal.value_digits, Int.negSucc_eq]

theorem int64?_ofInt (n : Int64) : (ofInt n.toInt).int64? = some n := by
  have hrange : -0x8000000000000000 ≤ n.toInt ∧ n.toInt < 0x8000000000000000 := by
    have hle := n.le_toInt
    have hlt := n.toInt_lt
    omega
  rw [int64?, int?_ofInt, Option.bind_eq_bind, Option.bind_some, if_pos hrange, Int64.ofInt_toInt]

theorem uint32?_ofInt (n : UInt32) : (ofInt n.toNat).uint32? = some n := by
  have hrange : (0 : Int) ≤ n.toNat ∧ (n.toNat : Int) < 0x100000000 := by
    have hlt := n.toNat_lt
    omega
  rw [uint32?, int?_ofInt, Option.bind_eq_bind, Option.bind_some, if_pos hrange, Int.toNat_natCast,
    UInt32.ofNat_toNat]

/-- An absent value is written as `null`, and nothing else is. -/
theorem nullable_ofOption {α : Type} {write : α → Json} {read : Json → Option α}
    (hread : ∀ value, read (write value) = some value) (hnull : ∀ value, write value ≠ .null)
    (value : Option α) : nullable read (ofOption write value) = some value := by
  cases value with
  | none => rfl
  | some value =>
    have hvalue := hnull value
    rw [ofOption, nullable, hread]
    · rfl
    · exact hvalue

/-- A list is read item by item. -/
theorem listOf?_array {α : Type} {write : α → Json} {read : Json → Option α}
    (hread : ∀ value, read (write value) = some value) (values : List α) :
    listOf? read (.array (values.map write)) = some values := by
  have hitems : (values.map write).mapM read = some values := by
    induction values with
    | nil => rfl
    | cons value values ih =>
      rw [List.map_cons, List.mapM_cons, hread, ih]
      rfl
  rw [listOf?, array?]
  exact hitems

theorem plain_array {α : Type} {write : α → Json} (h : ∀ value, (write value).Plain)
    (values : List α) : (Json.array (values.map write)).Plain := by
  change AllPlain (values.map write)
  induction values with
  | nil => trivial
  | cons value values ih => exact ⟨h value, ih⟩

/-! ## What is stored comes back -/

/-- Whether values are stored without loss: those for which `holds` are read from their own text,
and so is the value of any text that can be read. -/
structure Restores {α : Type} (holds : α → Prop) (toJson : α → Json)
    (ofJson? : Json → Option α) : Prop where
  /-- a value that is written is read as itself -/
  written : ∀ value, holds value → load? ofJson? (write (toJson value)) = some value
  /-- a value that was read, written and read again is the same -/
  reread : ∀ text value, load? ofJson? text = some value →
    load? ofJson? (write (toJson value)) = some value

/-- A reader that undoes a writer on JSON values does so on texts. -/
theorem Restores.of_plain {α : Type} {holds : α → Prop} {toJson : α → Json}
    {ofJson? : Json → Option α} (hplain : ∀ value, (toJson value).Plain)
    (hread : ∀ value, holds value → ofJson? (toJson value) = some value)
    (hholds : ∀ json value, ofJson? json = some value → holds value) :
    Restores holds toJson ofJson? := by
  have hwritten : ∀ value, holds value → load? ofJson? (write (toJson value)) = some value := by
    intro value hvalue
    rw [load?, read?_write (hplain value)]
    exact hread value hvalue
  refine ⟨hwritten, fun text value h => hwritten value ?_⟩
  obtain ⟨json, -, hjson⟩ := Option.bind_eq_some_iff.mp h
  exact hholds json value hjson

end Json

/-! ## The types of the library -/

/-- Every kind of refusal is read from its name. -/
theorem ErrorCategory.ofJson?_toJson (c : ErrorCategory) : ofJson? c.toJson = some c := by
  cases c <;> rfl

theorem FrameMode.ofJson?_toJson (mode : FrameMode) : ofJson? mode.toJson = some mode := by
  cases mode <;> rfl

theorem Boundary.ofJson?_toJson (boundary : Boundary) :
    ofJson? boundary.toJson = some boundary := by
  cases boundary <;> rfl

/-- **A dialect is known by its name**, whatever name it was found by. -/
theorem Dialect.ofName_name_ofName (name : String) :
    ofName (ofName name).name = ofName name := by
  have hpostgres : ofName "postgresql" = .postgres := by decide +kernel
  have hbigQuery : ofName "bigquery" = .bigQuery := by decide +kernel
  cases h : ofName name with
  | postgres => exact hpostgres
  | bigQuery => exact hbigQuery
  | other own =>
    have hown : own = name := by
      rw [ofName] at h
      split at h
      · cases h
      · split at h
        · cases h
        · exact (Dialect.other.inj h).symm
    rw [Dialect.name, hown, h, hown]

theorem Diagnostic.ofJson?_toJson (d : Diagnostic) : ofJson? d.toJson = some d := by
  have hfields : d.toJson.fields? ["code", "category", "message", "label", "help", "notes"] =
      some [.given (.ofString d.code), .given d.category.toJson, .given (.ofString d.message),
        .given (.ofOption .ofString d.label), .given (.ofOption .ofString d.help),
        .given (.array (d.notes.map .ofString))] :=
    Json.fields?_ofMembers rfl (by decide)
  rw [ofJson?, hfields]
  simp only [Json.Field.required, Json.Field.optional, Json.string?_ofString,
    ErrorCategory.ofJson?_toJson, Json.listOf?_array Json.string?_ofString,
    Json.nullable_ofOption Json.string?_ofString Json.ofString_ne_null, Option.bind_eq_bind,
    Option.bind_some]

theorem Relation.ofJson?_toJson (relation : Relation) :
    ofJson? relation.toJson = some relation := by
  have hfields : relation.toJson.fields? ["name", "generation"] =
      some [.given (.ofString relation.name), .given (.ofInt relation.generation.toNat)] :=
    Json.fields?_ofMembers rfl (by decide)
  rw [ofJson?, hfields]
  simp only [Json.Field.required, Json.string?_ofString, Json.uint32?_ofInt, Option.bind_eq_bind,
    Option.bind_some]

theorem Bound.ofJson?_toJson (bound : Bound) : ofJson? bound.toJson = some bound := by
  have hfields : bound.toJson.fields? ["boundary", "value"] =
      some [.given bound.boundary.toJson,
        .given (.ofOption (fun offset => .ofInt offset.toInt) bound.offset)] :=
    Json.fields?_ofMembers rfl (by decide)
  rw [ofJson?, hfields]
  simp only [Json.Field.required, Json.Field.orDefault, Boundary.ofJson?_toJson,
    Json.nullable_ofOption Json.int64?_ofInt fun _ => Json.ofInt_ne_null _, Option.bind_eq_bind,
    Option.bind_some]

/-- What a frame leaves open is `null` in its text, and stays open. -/
theorem Frame.ofJson?_toJson (frame : Frame) : ofJson? frame.toJson = some frame := by
  have hfields : frame.toJson.fields? ["mode", "start", "end"] =
      some [.given (.ofOption FrameMode.toJson frame.mode),
        .given (.ofOption Bound.toJson frame.start), .given (.ofOption Bound.toJson frame.stop)] :=
    Json.fields?_ofMembers rfl (by decide)
  rw [ofJson?, hfields]
  simp only [Json.Field.orDefault, Option.bind_eq_bind, Option.bind_some,
    Json.nullable_ofOption FrameMode.ofJson?_toJson fun _ => Json.ofString_ne_null _,
    Json.nullable_ofOption Bound.ofJson?_toJson fun _ => Json.ofMembers_ne_null _]

/-- The dialect of settings has to be one that a name stands for. -/
theorem Settings.ofJson?_toJson (settings : Settings)
    (hdialect : ∃ name, settings.dialect = .ofName name) :
    ofJson? settings.toJson = some settings := by
  obtain ⟨name, hname⟩ := hdialect
  have hfields : settings.toJson.fields? ["dialect", "window"] =
      some [.given settings.dialect.toJson, .given settings.window.toJson] :=
    Json.fields?_ofMembers rfl (by decide)
  have hread : Dialect.ofJson? settings.dialect.toJson = some settings.dialect := by
    rw [hname]
    exact congrArg some (Dialect.ofName_name_ofName name)
  rw [ofJson?, hfields]
  simp only [Json.Field.orDefault, hread, Frame.ofJson?_toJson, Option.bind_eq_bind,
    Option.bind_some]

/-- Whatever dialect is read, a name stands for it. -/
theorem Settings.exists_name_of_ofJson? {json : Json} {settings : Settings}
    (h : ofJson? json = some settings) : ∃ name, settings.dialect = .ofName name := by
  have hdialect : ∀ {field : Json.Field} {dialect : Dialect},
      field.orDefault Dialect.ofJson? standard.dialect = some dialect →
      ∃ name, dialect = .ofName name := by
    intro field dialect h
    cases field with
    | given value =>
      obtain ⟨name, -, rfl⟩ := Option.map_eq_some_iff.mp h
      exact ⟨name, rfl⟩
    | missing | beyond =>
      obtain rfl := Option.some.inj h
      exact ⟨"postgresql", by decide +kernel⟩
  rw [ofJson?] at h
  split at h
  · obtain ⟨dialect, hread, h⟩ := Option.bind_eq_some_iff.mp h
    obtain ⟨window, -, h⟩ := Option.bind_eq_some_iff.mp h
    obtain rfl := Option.some.inj h
    exact hdialect hread
  · cases h

/-! ### Their text says everything -/

theorem Diagnostic.plain_toJson (d : Diagnostic) : d.toJson.Plain := by
  refine Json.plain_ofMembers ?_
  simp only [List.forall_mem_cons]
  exact ⟨Json.plain_ofString _, Json.plain_ofString _, Json.plain_ofString _,
    Json.plain_ofOption Json.plain_ofString _, Json.plain_ofOption Json.plain_ofString _,
    Json.plain_array Json.plain_ofString _, List.forall_mem_nil _⟩

theorem Relation.plain_toJson (relation : Relation) : relation.toJson.Plain := by
  refine Json.plain_ofMembers ?_
  simp only [List.forall_mem_cons]
  exact ⟨Json.plain_ofString _, Json.plain_ofInt _, List.forall_mem_nil _⟩

theorem Bound.plain_toJson (bound : Bound) : bound.toJson.Plain := by
  refine Json.plain_ofMembers ?_
  simp only [List.forall_mem_cons]
  exact ⟨Json.plain_ofString _, Json.plain_ofOption (fun _ => Json.plain_ofInt _) _,
    List.forall_mem_nil _⟩

theorem Frame.plain_toJson (frame : Frame) : frame.toJson.Plain := by
  refine Json.plain_ofMembers ?_
  simp only [List.forall_mem_cons]
  exact ⟨Json.plain_ofOption (fun _ => Json.plain_ofString _) _,
    Json.plain_ofOption Bound.plain_toJson _, Json.plain_ofOption Bound.plain_toJson _,
    List.forall_mem_nil _⟩

theorem Settings.plain_toJson (settings : Settings) : settings.toJson.Plain := by
  refine Json.plain_ofMembers ?_
  simp only [List.forall_mem_cons]
  exact ⟨Json.plain_ofString _, settings.window.plain_toJson, List.forall_mem_nil _⟩

/-! ### Storing -/

/-- **Nothing is lost in storing** a diagnostic, a relation, a bound, a frame, or settings with a
dialect that a name stands for. What a frame leaves open is written as `null` and comes back open,
a dialect is found again by its name, and settings that are loaded from their text are checked and
else as they were. -/
theorem restores_stored :
    Json.Restores (fun _ => True) Diagnostic.toJson Diagnostic.ofJson? ∧
      Json.Restores (fun _ => True) Relation.toJson Relation.ofJson? ∧
      Json.Restores (fun _ => True) Bound.toJson Bound.ofJson? ∧
      Json.Restores (fun _ => True) Frame.toJson Frame.ofJson? ∧
      Json.Restores (fun settings => ∃ name, settings.dialect = .ofName name) Settings.toJson
        Settings.ofJson? ∧
      (∀ frame : Frame,
        (frame.mode = none → frame.toJson.member? "mode" = some .null) ∧
        (frame.start = none → frame.toJson.member? "start" = some .null) ∧
        (frame.stop = none → frame.toJson.member? "end" = some .null)) ∧
      (∀ name, Dialect.ofName (Dialect.ofName name).name = Dialect.ofName name) ∧
      ∀ settings : Settings, (∃ name, settings.dialect = .ofName name) →
        Settings.load (Json.write settings.toJson) = settings.checked := by
  have hsettings : Json.Restores (fun settings => ∃ name, settings.dialect = .ofName name)
      Settings.toJson Settings.ofJson? :=
    .of_plain Settings.plain_toJson Settings.ofJson?_toJson
      fun json settings => Settings.exists_name_of_ofJson?
  refine ⟨.of_plain Diagnostic.plain_toJson (fun d _ => d.ofJson?_toJson) fun _ _ _ => trivial,
    .of_plain Relation.plain_toJson (fun r _ => r.ofJson?_toJson) fun _ _ _ => trivial,
    .of_plain Bound.plain_toJson (fun b _ => b.ofJson?_toJson) fun _ _ _ => trivial,
    .of_plain Frame.plain_toJson (fun f _ => f.ofJson?_toJson) fun _ _ _ => trivial,
    hsettings, fun frame => ⟨?_, ?_, ?_⟩, Dialect.ofName_name_ofName, fun settings hname => ?_⟩
  · rintro hmode
    change some (Json.ofOption FrameMode.toJson frame.mode) = _
    rw [hmode]
    rfl
  · rintro hstart
    change some (Json.ofOption Bound.toJson frame.start) = _
    rw [hstart]
    rfl
  · rintro hstop
    change some (Json.ofOption Bound.toJson frame.stop) = _
    rw [hstop]
    rfl
  · rw [Settings.load, hsettings.written settings hname]

/-- A diagnostic that needs every escape, and settings that leave every part of the frame open: read
from a text without those parts, the frame is the standard one. -/
theorem restores_stored_hostile :
    let d : Diagnostic := ⟨"\"\\", .capability, "\x00\n\x1f\x08", some "null", none, ["é 𝄞"]⟩
    let settings : Settings := ⟨.other "MySQL", ⟨none, none, none⟩⟩
    Json.load? Diagnostic.ofJson? (Json.write d.toJson) = some d ∧
      Json.load? Settings.ofJson? (Json.write settings.toJson) = some settings ∧
      Json.load? Frame.ofJson? "\x7b\x7d" = some .standard ∧
      Json.load? Frame.ofJson? (Json.write Frame.standard.toJson) = some .standard := by
  intro d settings
  obtain ⟨hdiagnostic, -, -, hframe, hsettings, -⟩ := restores_stored
  have hname : ∃ name, settings.dialect = .ofName name := ⟨"MySQL", by decide +kernel⟩
  have hread : Json.load? Frame.ofJson? "\x7b\x7d" = some .standard := by decide +kernel
  exact ⟨hdiagnostic.written d trivial, hsettings.written settings hname, hread,
    hframe.reread _ _ hread⟩

end QueryFrame
