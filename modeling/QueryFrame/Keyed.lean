/-!
# Named entries in insertion order

A dataframe keeps its columns by name, and the order in which they were added shows in every clause
that lists them. Such a collection is a list of name and value. Adding a value under a name that
is already present replaces the value where it stands, so a name keeps the place of its first
occurrence.

The view is the list itself. `keys_insert`, `find?_insert_self` and `find?_insert_of_ne` say what
an insertion does to the names and to a look-up.
-/

namespace QueryFrame.Keyed

variable {α : Type}

/-- The names in order. -/
def keys (entries : List (String × α)) : List String :=
  entries.map Prod.fst

/-- The values in order. -/
def values (entries : List (String × α)) : List α :=
  entries.map Prod.snd

/-- The value stored under `key`, the first one if there were several. -/
def find? (key : String) : List (String × α) → Option α
  | [] => none
  | (name, value) :: rest => if name = key then some value else find? key rest

/-- Whether a value is stored under `key`. -/
def contains (key : String) (entries : List (String × α)) : Bool :=
  (find? key entries).isSome

/-- Stores `value` under `key`: in the place of the entry of that name, or else at the end. -/
def insert (key : String) (value : α) : List (String × α) → List (String × α)
  | [] => [(key, value)]
  | (name, old) :: rest =>
    if name = key then (key, value) :: rest else (name, old) :: insert key value rest

/-- Stores `value` under `key` unless something is stored there already. -/
def insertNew (key : String) (value : α) (entries : List (String × α)) : List (String × α) :=
  if contains key entries then entries else entries ++ [(key, value)]

/-- The entries added one after another to an empty collection: of several values under one name
the last one stays, in the place of the first. -/
def ofList (entries : List (String × α)) : List (String × α) :=
  entries.foldl (fun stored entry => insert entry.1 entry.2 stored) []

/-- Other values under the same names. -/
def mapValues (f : α → α) (entries : List (String × α)) : List (String × α) :=
  entries.map fun entry => (entry.1, f entry.2)

/-! ### What the operations do to names and look-ups -/

@[simp] theorem keys_nil : keys ([] : List (String × α)) = [] := rfl

@[simp] theorem keys_cons (entry : String × α) (rest : List (String × α)) :
    keys (entry :: rest) = entry.1 :: keys rest := rfl

@[simp] theorem values_nil : values ([] : List (String × α)) = [] := rfl

@[simp] theorem values_cons (entry : String × α) (rest : List (String × α)) :
    values (entry :: rest) = entry.2 :: values rest := rfl

theorem keys_append (left right : List (String × α)) :
    keys (left ++ right) = keys left ++ keys right := by
  simp [keys]

/-- A name is stored exactly when it is among the names. -/
theorem contains_iff (key : String) (entries : List (String × α)) :
    contains key entries = true ↔ key ∈ keys entries := by
  induction entries with
  | nil => simp [contains, find?]
  | cons entry rest ih =>
    obtain ⟨name, value⟩ := entry
    by_cases h : name = key
    · simp [contains, find?, h]
    · have ih' : (find? key rest).isSome = true ↔ key ∈ keys rest := ih
      simp [contains, find?, h, ih', Ne.symm h]

/-- An insertion adds a name at the end, and only if it is a new one. -/
theorem keys_insert (key : String) (value : α) (entries : List (String × α)) :
    keys (insert key value entries) =
      if key ∈ keys entries then keys entries else keys entries ++ [key] := by
  induction entries with
  | nil => simp [insert]
  | cons entry rest ih =>
    obtain ⟨name, old⟩ := entry
    by_cases h : name = key
    · simp [insert, h]
    · by_cases hr : key ∈ keys rest <;> simp [insert, h, ih, hr, Ne.symm h]

/-- What was just stored is found. -/
@[simp] theorem find?_insert_self (key : String) (value : α) (entries : List (String × α)) :
    find? key (insert key value entries) = some value := by
  induction entries with
  | nil => simp [insert, find?]
  | cons entry rest ih =>
    obtain ⟨name, old⟩ := entry
    by_cases h : name = key
    · simp [insert, find?, h]
    · simp [insert, find?, h, ih]

/-- An insertion under another name does not disturb a look-up. -/
theorem find?_insert_of_ne {key other : String} (h : key ≠ other) (value : α)
    (entries : List (String × α)) :
    find? other (insert key value entries) = find? other entries := by
  induction entries with
  | nil => simp [insert, find?, h]
  | cons entry rest ih =>
    obtain ⟨name, old⟩ := entry
    by_cases hn : name = key
    · subst hn
      simp [insert, find?, h]
    · by_cases ho : name = other
      · rw [insert, if_neg hn, find?, if_pos ho, find?, if_pos ho]
      · simp [insert, find?, hn, ho, ih]

theorem find?_insert (key other : String) (value : α) (entries : List (String × α)) :
    find? other (insert key value entries) =
      if other = key then some value else find? other entries := by
  split
  · next h => rw [h, find?_insert_self]
  · next h => rw [find?_insert_of_ne (Ne.symm h)]

/-- Nothing is found under a name that is not stored. -/
theorem find?_eq_none_iff {key : String} {entries : List (String × α)} :
    find? key entries = none ↔ key ∉ keys entries := by
  rw [← contains_iff, contains]
  cases find? key entries <;> simp

/-- What is stored first is found first. -/
theorem find?_append (key : String) (left right : List (String × α)) :
    find? key (left ++ right) = (find? key left).or (find? key right) := by
  induction left with
  | nil => rfl
  | cons entry rest ih =>
    rw [List.cons_append, find?, find?, ih]
    split <;> rfl

/-- A look-up in several collections takes the first that has the name. -/
theorem find?_flatMap {β : Type} (key : String) (list : List β) (f : β → List (String × α)) :
    find? key (list.flatMap f) = list.findSome? fun b => find? key (f b) := by
  induction list with
  | nil => rfl
  | cons b rest ih =>
    rw [List.flatMap_cons, find?_append, ih, List.findSome?_cons]
    cases find? key (f b) <;> rfl

/-- **The last value under a name** is the one that stays in a collection. -/
theorem find?_ofList (key : String) (entries : List (String × α)) :
    find? key (ofList entries) = find? key entries.reverse := by
  have hfold : ∀ (given stored : List (String × α)),
      find? key (given.foldl (fun stored entry => insert entry.1 entry.2 stored) stored) =
        (find? key given.reverse).or (find? key stored) := by
    intro given
    induction given with
    | nil => exact fun stored => rfl
    | cons first rest ih =>
      intro stored
      rw [List.foldl_cons, ih, find?_insert, List.reverse_cons, find?_append, Option.or_assoc]
      congr 1
      by_cases h : key = first.1
      · simp [find?, h]
      · simp [find?, h, Ne.symm h]
  rw [ofList, hfold entries []]
  cases find? key entries.reverse <;> rfl

/-- What a look-up finds is the first entry of that name. -/
theorem find?_eq_some_iff {key : String} {value : α} {entries : List (String × α)} :
    find? key entries = some value ↔
      ∃ before after, entries = before ++ (key, value) :: after ∧ key ∉ keys before := by
  constructor
  · intro h
    induction entries with
    | nil => cases h
    | cons first rest ih =>
      obtain ⟨name, old⟩ := first
      rw [find?] at h
      split at h
      · next hname =>
        rw [hname, Option.some.inj h]
        exact ⟨[], rest, rfl, List.not_mem_nil⟩
      · next hname =>
        obtain ⟨before, after, rfl, hnew⟩ := ih h
        refine ⟨(name, old) :: before, after, rfl, ?_⟩
        rw [keys_cons, List.mem_cons, not_or]
        exact ⟨Ne.symm hname, hnew⟩
  · rintro ⟨before, after, rfl, hnew⟩
    rw [find?_append, find?_eq_none_iff.mpr hnew, find?, if_pos rfl]
    rfl

/-! ### Which entries there are -/

/-- A value is among the values exactly when it is stored under some name. -/
theorem mem_values {value : α} {entries : List (String × α)} :
    value ∈ values entries ↔ ∃ key, (key, value) ∈ entries := by
  simp [values]

/-- What a look-up finds is an entry. -/
theorem mem_of_find? {key : String} {value : α} {entries : List (String × α)}
    (h : find? key entries = some value) : (key, value) ∈ entries := by
  induction entries with
  | nil => cases h
  | cons entry rest ih =>
    obtain ⟨name, old⟩ := entry
    rw [find?] at h
    split at h
    · next hn =>
      rw [← hn, ← Option.some.inj h]
      exact List.mem_cons_self ..
    · exact List.mem_cons_of_mem _ (ih h)

/-- An insertion adds no entry but the one inserted. -/
theorem mem_of_mem_insert {key : String} {value : α} {entries : List (String × α)}
    {entry : String × α} (h : entry ∈ insert key value entries) :
    entry = (key, value) ∨ entry ∈ entries := by
  induction entries with
  | nil => exact .inl (List.mem_singleton.mp h)
  | cons first rest ih =>
    obtain ⟨name, old⟩ := first
    rw [insert] at h
    split at h
    · rcases List.mem_cons.mp h with h | h
      · exact .inl h
      · exact .inr (List.mem_cons_of_mem _ h)
    · rcases List.mem_cons.mp h with h | h
      · rw [h]
        exact .inr (List.mem_cons_self ..)
      · rcases ih h with h | h
        · exact .inl h
        · exact .inr (List.mem_cons_of_mem _ h)

/-- Nor does one that leaves an entry of its name alone. -/
theorem mem_of_mem_insertNew {key : String} {value : α} {entries : List (String × α)}
    {entry : String × α} (h : entry ∈ insertNew key value entries) :
    entry = (key, value) ∨ entry ∈ entries := by
  rw [insertNew] at h
  split at h
  · exact .inr h
  · rcases List.mem_append.mp h with h | h
    · exact .inr h
    · exact .inl (List.mem_singleton.mp h)

/-- Every entry of a collection is one that it was made of. -/
theorem mem_of_mem_ofList {entries : List (String × α)} {entry : String × α}
    (h : entry ∈ ofList entries) : entry ∈ entries := by
  have hfold : ∀ (given stored : List (String × α)),
      entry ∈ given.foldl (fun stored entry => insert entry.1 entry.2 stored) stored →
      entry ∈ stored ∨ entry ∈ given := by
    intro given
    induction given with
    | nil => exact fun stored hs => .inl hs
    | cons first rest ih =>
      intro stored hs
      rcases ih _ hs with hs | hs
      · rcases mem_of_mem_insert hs with hs | hs
        · rw [hs]
          exact .inr (List.mem_cons_self ..)
        · exact .inl hs
      · exact .inr (List.mem_cons_of_mem _ hs)
  rcases hfold entries [] h with h | h
  · cases h
  · exact h

/-! ### Which names there are -/

/-- Keeping the old value makes no difference to the names. -/
theorem keys_insertNew (key : String) (value : α) (entries : List (String × α)) :
    keys (insertNew key value entries) =
      if key ∈ keys entries then keys entries else keys entries ++ [key] := by
  rw [insertNew]
  by_cases hold : key ∈ keys entries
  · rw [if_pos hold, if_pos ((contains_iff key entries).mpr hold)]
  · rw [if_neg hold, if_neg fun hcontains => hold ((contains_iff key entries).mp hcontains),
      keys_append]
    rfl

section

variable {add : String → α → List (String × α) → List (String × α)}
  (hadd : ∀ key value entries, keys (add key value entries) =
    if key ∈ keys entries then keys entries else keys entries ++ [key])

include hadd

/-- **No name is lost** when entries are added one after another, and none is new. -/
theorem mem_keys_foldl {name : String} (given stored : List (String × α)) :
    name ∈ keys (given.foldl (fun stored entry => add entry.1 entry.2 stored) stored) ↔
      name ∈ keys stored ∨ name ∈ keys given := by
  induction given generalizing stored with
  | nil => simp
  | cons first rest ih =>
    have hfirst : name ∈ keys (add first.1 first.2 stored) ↔
        name = first.1 ∨ name ∈ keys stored := by
      rw [hadd]
      split
      · next hold => exact ⟨.inr, fun h => h.elim (fun heq => heq ▸ hold) id⟩
      · rw [List.mem_append, List.mem_singleton, or_comm]
    rw [List.foldl_cons, ih, hfirst, keys_cons, List.mem_cons, or_assoc, or_left_comm]

/-- The names stand where they first occur. The induction is from the end, since the last entry is
added last. -/
theorem keys_foldl (given : List (String × α)) :
    keys (given.foldl (fun stored entry => add entry.1 entry.2 stored) []) =
      (keys given).eraseDups := by
  rw [← List.reverse_reverse given]
  induction given.reverse with
  | nil => rfl
  | cons entry rest ih =>
    rw [List.reverse_cons, List.foldl_append, List.foldl_cons, List.foldl_nil, hadd, ih,
      keys_append, List.eraseDups_append]
    by_cases hold : entry.1 ∈ keys rest.reverse
    · simp [hold, List.removeAll]
    · simp [hold, List.removeAll, List.eraseDups_cons]

end

theorem keys_ofList (entries : List (String × α)) :
    keys (ofList entries) = (keys entries).eraseDups :=
  keys_foldl keys_insert entries

theorem ofList_ne_nil {entries : List (String × α)} (h : entries ≠ []) : ofList entries ≠ [] := by
  obtain ⟨entry, rest, rfl⟩ := List.exists_cons_of_ne_nil h
  have hkeys : keys (ofList (entry :: rest)) ≠ [] := by
    rw [keys_ofList, keys_cons, List.eraseDups_cons]
    exact List.cons_ne_nil _ _
  exact fun hnil => hkeys (by rw [hnil]; rfl)

/-! ### Names that occur once -/

theorem insert_of_not_mem {key : String} (value : α) {entries : List (String × α)}
    (h : key ∉ keys entries) : insert key value entries = entries ++ [(key, value)] := by
  induction entries with
  | nil => rfl
  | cons entry rest ih =>
    obtain ⟨name, old⟩ := entry
    rw [keys_cons, List.mem_cons, not_or] at h
    rw [insert, if_neg (Ne.symm h.1), ih h.2, List.cons_append]

theorem nodup_keys_insert (key : String) (value : α) {entries : List (String × α)}
    (h : (keys entries).Nodup) : (keys (insert key value entries)).Nodup := by
  rw [keys_insert]
  split
  · exact h
  · next hnew =>
    refine List.nodup_append.mpr ⟨h, List.nodup_cons.mpr ⟨List.not_mem_nil, .nil⟩, ?_⟩
    intro name hname other hother heq
    rw [List.mem_singleton.mp hother] at heq
    rw [heq] at hname
    exact hnew hname

/-- No name occurs twice in a collection, whatever it was made of. -/
theorem nodup_keys_ofList (entries : List (String × α)) : (keys (ofList entries)).Nodup := by
  have hfold : ∀ (given stored : List (String × α)), (keys stored).Nodup →
      (keys (given.foldl (fun stored entry => insert entry.1 entry.2 stored) stored)).Nodup := by
    intro given
    induction given with
    | nil => exact fun stored hs => hs
    | cons first rest ih => exact fun stored hs => ih _ (nodup_keys_insert _ _ hs)
  exact hfold entries [] List.nodup_nil

/-- Entries with different names make up a collection as they stand. -/
theorem ofList_of_nodup {entries : List (String × α)} (h : (keys entries).Nodup) :
    ofList entries = entries := by
  have hfold : ∀ (given stored : List (String × α)), (keys (stored ++ given)).Nodup →
      given.foldl (fun stored entry => insert entry.1 entry.2 stored) stored = stored ++ given := by
    intro given
    induction given with
    | nil => simp
    | cons first rest ih =>
      intro stored hs
      rw [List.append_cons] at hs
      have hnew : first.1 ∉ keys stored := by
        rw [keys_append, keys_append] at hs
        intro hmem
        exact (List.nodup_append.mp (List.nodup_append.mp hs).1).2.2 first.1 hmem first.1
          (List.mem_singleton_self _) rfl
      rw [List.foldl_cons, insert_of_not_mem first.2 hnew, ih _ hs, ← List.append_cons]
  exact hfold entries [] h

/-- Where no name occurs twice, every entry is found under its name. -/
theorem find?_of_mem {entries : List (String × α)} (h : (keys entries).Nodup)
    {entry : String × α} (hentry : entry ∈ entries) : find? entry.1 entries = some entry.2 := by
  obtain ⟨before, after, rfl⟩ := List.append_of_mem hentry
  rw [keys_append, List.nodup_append] at h
  refine find?_eq_some_iff.mpr ⟨before, after, rfl, fun hbefore => ?_⟩
  exact h.2.2 entry.1 hbefore entry.1 (List.mem_cons_self ..) rfl

/-- **The last entry of each name** is in a collection, and no other. -/
theorem mem_ofList_iff {entries : List (String × α)} {entry : String × α} :
    entry ∈ ofList entries ↔
      ∃ before after, entries = before ++ entry :: after ∧ entry.1 ∉ keys after := by
  have hfind : entry ∈ ofList entries ↔ find? entry.1 entries.reverse = some entry.2 := by
    rw [← find?_ofList]
    exact ⟨find?_of_mem (nodup_keys_ofList entries), mem_of_find?⟩
  have hkeys : ∀ rest : List (String × α), entry.1 ∉ keys rest.reverse ↔ entry.1 ∉ keys rest := by
    intro rest
    rw [keys, List.map_reverse, List.mem_reverse, keys]
  rw [hfind, find?_eq_some_iff]
  constructor
  · rintro ⟨after, before, hreverse, hafter⟩
    refine ⟨before.reverse, after.reverse, ?_, (hkeys after).mpr hafter⟩
    rw [← List.reverse_reverse entries, hreverse]
    simp
  · rintro ⟨before, after, rfl, hafter⟩
    refine ⟨after.reverse, before.reverse, ?_, (hkeys after).mpr hafter⟩
    simp

/-- The names of entries that are made of something else. -/
theorem keys_map {β : Type} (name : β → String) (value : β → α) (list : List β) :
    keys (list.map fun b => (name b, value b)) = list.map name := by
  rw [keys, List.map_map]
  rfl

/-- The same for entries that are made of something else: the last of each name is in. -/
theorem mem_ofList_map_iff {β : Type} {name : β → String} {value : β → α} {list : List β}
    {entry : String × α} :
    entry ∈ ofList (list.map fun b => (name b, value b)) ↔
      ∃ before b after, list = before ++ b :: after ∧ (∀ later ∈ after, name later ≠ name b) ∧
        entry = (name b, value b) := by
  rw [mem_ofList_iff]
  constructor
  · rintro ⟨before, after, hsplit, hafter⟩
    obtain ⟨firsts, rest, rfl, -, hrest⟩ := List.map_eq_append_iff.mp hsplit
    obtain ⟨b, lasts, rfl, rfl, rfl⟩ := List.map_eq_cons_iff.mp hrest
    refine ⟨firsts, b, lasts, rfl, fun later hlater heq => hafter ?_, rfl⟩
    rw [keys_map]
    exact List.mem_map.mpr ⟨later, hlater, heq⟩
  · rintro ⟨before, b, after, rfl, hafter, rfl⟩
    refine ⟨_, _, List.map_append .., ?_⟩
    rw [keys_map]
    intro hmem
    obtain ⟨later, hlater, heq⟩ := List.mem_map.mp hmem
    exact hafter later hlater heq

/-! ### Adding without replacing

Entries can also be added so that a name that is stored keeps its value. Then the first value of
each name stays, and it makes no difference whether the entries added were collected before. -/

/-- The entries added one after another, each unless its name is stored already. -/
def union (stored given : List (String × α)) : List (String × α) :=
  given.foldl (fun stored entry => insertNew entry.1 entry.2 stored) stored

@[simp] theorem union_nil (stored : List (String × α)) : union stored [] = stored := rfl

theorem union_cons (stored : List (String × α)) (entry : String × α)
    (rest : List (String × α)) :
    union stored (entry :: rest) = union (insertNew entry.1 entry.2 stored) rest := rfl

theorem union_append (stored left right : List (String × α)) :
    union stored (left ++ right) = union (union stored left) right :=
  List.foldl_append

theorem mem_keys_union {name : String} {stored given : List (String × α)} :
    name ∈ keys (union stored given) ↔ name ∈ keys stored ∨ name ∈ keys given :=
  mem_keys_foldl keys_insertNew given stored

theorem keys_union_nil (given : List (String × α)) :
    keys (union [] given) = (keys given).eraseDups :=
  keys_foldl keys_insertNew given

theorem insertNew_of_mem {key : String} (value : α) {entries : List (String × α)}
    (h : key ∈ keys entries) : insertNew key value entries = entries :=
  if_pos ((contains_iff key entries).mpr h)

theorem insertNew_of_not_mem {key : String} (value : α) {entries : List (String × α)}
    (h : key ∉ keys entries) : insertNew key value entries = entries ++ [(key, value)] :=
  if_neg fun hcontains => h ((contains_iff key entries).mp hcontains)

/-- What was collected before may as well be added entry by entry. -/
theorem union_union (found stored given : List (String × α)) :
    union found (union stored given) = union (union found stored) given := by
  induction given generalizing stored with
  | nil => rfl
  | cons entry rest ih =>
    rw [union_cons, ih, union_cons]
    congr 1
    by_cases hold : entry.1 ∈ keys stored
    · rw [insertNew_of_mem _ hold, insertNew_of_mem _ (mem_keys_union.mpr (.inr hold))]
    · rw [insertNew_of_not_mem _ hold, union_append]
      rfl

theorem find?_insertNew (key other : String) (value : α) (entries : List (String × α)) :
    find? other (insertNew key value entries) =
      (find? other entries).or (if key = other then some value else none) := by
  by_cases hold : key ∈ keys entries
  · rw [insertNew_of_mem _ hold]
    split
    · next heq =>
      rw [← heq, ← contains_iff, contains, Option.isSome_iff_exists] at *
      obtain ⟨old, hfind⟩ := hold
      rw [hfind, Option.some_or]
    · rw [Option.or_none]
  · rw [insertNew_of_not_mem _ hold, find?_append]
    rfl

/-- **The first value of each name** is the one that stays. -/
theorem find?_union (key : String) (stored given : List (String × α)) :
    find? key (union stored given) = (find? key stored).or (find? key given) := by
  induction given generalizing stored with
  | nil => rw [union_nil, find?, Option.or_none]
  | cons entry rest ih =>
    rw [union_cons, ih, find?_insertNew, Option.or_assoc, find?]
    split <;> rfl

theorem nodup_keys_union {stored : List (String × α)} (h : (keys stored).Nodup)
    (given : List (String × α)) : (keys (union stored given)).Nodup := by
  induction given generalizing stored with
  | nil => exact h
  | cons entry rest ih =>
    rw [union_cons]
    refine ih ?_
    by_cases hold : entry.1 ∈ keys stored
    · rwa [insertNew_of_mem _ hold]
    · rw [insertNew_of_not_mem _ hold, ← insert_of_not_mem _ hold]
      exact nodup_keys_insert _ _ h

/-- Entries with different names are all added, as they stand. -/
theorem union_of_nodup {stored given : List (String × α)} (h : (keys (stored ++ given)).Nodup) :
    union stored given = stored ++ given := by
  induction given generalizing stored with
  | nil => rw [union_nil, List.append_nil]
  | cons entry rest ih =>
    have hnew : entry.1 ∉ keys stored := by
      rw [keys_append, List.nodup_append] at h
      exact fun hold => h.2.2 _ hold _ (List.mem_cons_self ..) rfl
    rw [List.append_cons] at h
    rw [union_cons, insertNew_of_not_mem _ hnew, ih h, ← List.append_cons]

/-- Nothing but what was stored or given is in the end stored. -/
theorem mem_of_mem_union {stored given : List (String × α)} {entry : String × α}
    (h : entry ∈ union stored given) : entry ∈ stored ∨ entry ∈ given := by
  induction given generalizing stored with
  | nil => exact .inl h
  | cons first rest ih =>
    rcases ih h with h | h
    · rcases mem_of_mem_insertNew h with h | h
      · rw [h]
        exact .inr (List.mem_cons_self ..)
      · exact .inl h
    · exact .inr (List.mem_cons_of_mem _ h)

/-! ### Entries with some of the names -/

section Filter

variable (p : String → Bool)

theorem find?_filter (key : String) (entries : List (String × α)) :
    find? key (entries.filter fun entry => p entry.1) =
      if p key then find? key entries else none := by
  induction entries with
  | nil => simp [find?]
  | cons entry rest ih =>
    obtain ⟨name, old⟩ := entry
    by_cases hp : p name <;> by_cases h : name = key <;> simp_all [find?]

theorem insert_filter (key : String) (value : α) (entries : List (String × α)) :
    (insert key value entries).filter (fun entry => p entry.1) =
      if p key then insert key value (entries.filter fun entry => p entry.1)
      else entries.filter fun entry => p entry.1 := by
  induction entries with
  | nil => by_cases hk : p key <;> simp [insert, hk]
  | cons entry rest ih =>
    obtain ⟨name, old⟩ := entry
    by_cases h : name = key
    · by_cases hk : p key <;> simp [insert, h, hk]
    · by_cases hk : p key <;> by_cases hn : p name <;> simp [insert, h, hk, hn, ih]

/-- It does not matter whether names are sorted out before entries are collected or after. -/
theorem ofList_filter (entries : List (String × α)) :
    ofList (entries.filter fun entry => p entry.1) =
      (ofList entries).filter fun entry => p entry.1 := by
  have hfold : ∀ (given stored : List (String × α)),
      (given.filter fun entry => p entry.1).foldl
          (fun stored entry => insert entry.1 entry.2 stored)
          (stored.filter fun entry => p entry.1) =
        (given.foldl (fun stored entry => insert entry.1 entry.2 stored) stored).filter
          fun entry => p entry.1 := by
    intro given
    induction given with
    | nil => exact fun stored => rfl
    | cons first rest ih =>
      intro stored
      rw [List.foldl_cons, ← ih, insert_filter, List.filter_cons]
      split <;> rfl
  exact hfold entries []

end Filter

/-! ### Other values under the same names

Which entry an operation touches is decided by the names alone, so it does not matter whether the
values are replaced before or after. -/

variable (f : α → α)

@[simp] theorem mapValues_nil : mapValues f ([] : List (String × α)) = [] := rfl

@[simp] theorem mapValues_cons (entry : String × α) (rest : List (String × α)) :
    mapValues f (entry :: rest) = (entry.1, f entry.2) :: mapValues f rest := rfl

@[simp] theorem keys_mapValues (entries : List (String × α)) :
    keys (mapValues f entries) = keys entries := by
  simp [keys, mapValues]

@[simp] theorem values_mapValues (entries : List (String × α)) :
    values (mapValues f entries) = (values entries).map f := by
  simp [values, mapValues]

theorem find?_mapValues (key : String) (entries : List (String × α)) :
    find? key (mapValues f entries) = (find? key entries).map f := by
  induction entries with
  | nil => rfl
  | cons entry rest ih =>
    rw [mapValues_cons, find?, find?, ih]
    split <;> rfl

theorem contains_mapValues (key : String) (entries : List (String × α)) :
    contains key (mapValues f entries) = contains key entries := by
  rw [Bool.eq_iff_iff, contains_iff, contains_iff, keys_mapValues]

theorem insert_mapValues (key : String) (value : α) (entries : List (String × α)) :
    insert key (f value) (mapValues f entries) = mapValues f (insert key value entries) := by
  induction entries with
  | nil => rfl
  | cons entry rest ih =>
    obtain ⟨name, old⟩ := entry
    by_cases h : name = key <;> simp [insert, h, ih]

theorem insertNew_mapValues (key : String) (value : α) (entries : List (String × α)) :
    insertNew key (f value) (mapValues f entries) = mapValues f (insertNew key value entries) := by
  rw [insertNew, insertNew, contains_mapValues]
  split
  · rfl
  · simp [mapValues]

theorem ofList_mapValues (entries : List (String × α)) :
    ofList (mapValues f entries) = mapValues f (ofList entries) := by
  have hfold : ∀ (given stored : List (String × α)),
      (mapValues f given).foldl (fun stored entry => insert entry.1 entry.2 stored)
          (mapValues f stored) =
        mapValues f (given.foldl (fun stored entry => insert entry.1 entry.2 stored) stored) := by
    intro given
    induction given with
    | nil => exact fun stored => rfl
    | cons first rest ih =>
      intro stored
      rw [mapValues_cons, List.foldl_cons, List.foldl_cons, insert_mapValues, ih]
  exact hfold entries []

/-! ### The entries of given names

Names may repeat, and names that are not stored are passed over. What is picked depends on look-ups
alone, so it does not matter whether values are replaced or names sorted out before or after. -/

/-- What is stored under the names, in their order. -/
def pick (names : List String) (entries : List (String × α)) : List (String × α) :=
  names.filterMap fun name => (find? name entries).map fun value => (name, value)

theorem pick_cons_of_some {name : String} {entries : List (String × α)} {value : α}
    (h : find? name entries = some value) (rest : List String) :
    pick (name :: rest) entries = (name, value) :: pick rest entries := by
  rw [pick, List.filterMap_cons, h]
  rfl

theorem pick_cons_of_none {name : String} {entries : List (String × α)}
    (h : find? name entries = none) (rest : List String) :
    pick (name :: rest) entries = pick rest entries := by
  rw [pick, List.filterMap_cons, h]
  rfl

/-- For the names themselves, a look-up does not tell what was picked from what it was picked out
of. -/
theorem find?_pick (key : String) (names : List String) (entries : List (String × α)) :
    find? key (pick names entries) = if key ∈ names then find? key entries else none := by
  induction names with
  | nil => rfl
  | cons name rest ih =>
    by_cases hkey : name = key
    · subst hkey
      rw [if_pos (List.mem_cons_self ..)]
      cases hfind : find? name entries with
      | some value => rw [pick_cons_of_some hfind, find?, if_pos rfl]
      | none => rw [pick_cons_of_none hfind, ih, hfind, ite_self]
    · have hmem : key ∈ name :: rest ↔ key ∈ rest := by simp [Ne.symm hkey]
      simp only [hmem]
      cases hfind : find? name entries with
      | some value => rw [pick_cons_of_some hfind, find?, if_neg hkey, ih]
      | none => rw [pick_cons_of_none hfind, ih]

/-- Nor does it matter that what was picked is collected, since one name has one value. -/
theorem find?_ofList_pick (key : String) (names : List String) (entries : List (String × α)) :
    find? key (ofList (pick names entries)) =
      if key ∈ names then find? key entries else none := by
  have hreverse : (pick names entries).reverse = pick names.reverse entries :=
    List.filterMap_reverse.symm
  rw [find?_ofList, hreverse, find?_pick]
  simp only [List.mem_reverse]

/-- Values may be replaced before they are picked or after. -/
theorem mapValues_pick (names : List String) (entries : List (String × α)) :
    mapValues f (pick names entries) = pick names (mapValues f entries) := by
  have hfind : ∀ name, ((find? name (mapValues f entries)).map fun value => (name, value)) =
      ((find? name entries).map fun value => (name, value)).map fun entry =>
        (entry.1, f entry.2) := by
    intro name
    rw [find?_mapValues, Option.map_map, Option.map_map]
    rfl
  simp only [pick, hfind]
  exact List.map_filterMap

theorem mapValues_ofList_pick (names : List String) (entries : List (String × α)) :
    mapValues f (ofList (pick names entries)) = ofList (pick names (mapValues f entries)) := by
  rw [← ofList_mapValues, mapValues_pick]

/-- Entries that are sorted out by their names afterwards may be sorted out before, and the names
with them. -/
theorem filter_pick (p : String → Bool) (names : List String) (entries : List (String × α)) :
    (pick names entries).filter (fun entry => p entry.1) =
      pick (names.filter p) (entries.filter fun entry => p entry.1) := by
  have hfind : ∀ name, (if p name then
      (find? name (entries.filter fun entry => p entry.1)).map fun value => (name, value)
      else none) =
        ((find? name entries).map fun value => (name, value)).filter fun entry => p entry.1 := by
    intro name
    rw [find?_filter]
    by_cases hp : p name <;> cases find? name entries <;> simp [hp, Option.filter]
  rw [pick, pick, List.filter_filterMap, List.filterMap_filter]
  simp only [hfind]

theorem filter_ofList_pick (p : String → Bool) (names : List String)
    (entries : List (String × α)) :
    (ofList (pick names entries)).filter (fun entry => p entry.1) =
      ofList (pick (names.filter p) (entries.filter fun entry => p entry.1)) := by
  rw [← ofList_filter, filter_pick]

end QueryFrame.Keyed
