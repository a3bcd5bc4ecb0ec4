import RequestBook.Roster

/-! What the operations of a roster do to its entries and to what is found under a name. -/
namespace RequestBook.Roster

variable {key : String → String} {α : Type}

theorem ext {a b : Roster key α} (same : a.entries = b.entries) : a = b := by
  cases a
  cases b
  cases same
  rfl

/-- What is found under a name is the value of an entry with its key. -/
theorem mem_of_get? {roster : Roster key α} {name : String} {value : α}
    (found : roster.get? name = some value) :
    ∃ entry ∈ roster.entries, key entry.1 = key name ∧ entry.2 = value := by
  obtain ⟨entry, inside, rfl⟩ := Option.map_eq_some_iff.mp found
  exact ⟨entry, List.mem_of_find?_eq_some inside, by simpa using List.find?_some inside, rfl⟩

def insertAll (roster : Roster key α) (pairs : List (String × α)) : Roster key α :=
  pairs.foldl (fun roster pair => roster.insert pair.1 pair.2) roster

@[simp] theorem insertAll_nil (roster : Roster key α) : roster.insertAll [] = roster := rfl

@[simp] theorem insertAll_cons (roster : Roster key α) (pair : String × α)
    (pairs : List (String × α)) :
    roster.insertAll (pair :: pairs) = (roster.insert pair.1 pair.2).insertAll pairs := rfl

theorem insertAll_append (roster : Roster key α) (pairs more : List (String × α)) :
    roster.insertAll (pairs ++ more) = (roster.insertAll pairs).insertAll more :=
  List.foldl_append

theorem overlay_eq (roster upper : Roster key α) :
    roster.overlay upper = roster.insertAll upper.entries := rfl

theorem find?_place (name other : String) (value : α) (entries : List (String × α)) :
    (place key name value entries).find? (fun entry => key entry.1 == key other) =
      if key name = key other then some (name, value)
      else entries.find? fun entry => key entry.1 == key other := by
  induction entries with
  | nil => by_cases same : key name = key other <;> simp [place, same]
  | cons entry rest ih =>
    by_cases taken : key entry.1 = key name
    · by_cases same : key name = key other <;> simp [place, taken, same]
    · by_cases same : key entry.1 = key other
      · have apart : key name ≠ key other := fun eq => taken (same.trans eq.symm)
        rw [place, if_neg taken, if_neg apart]
        simp [same]
      · simp [place, taken, same, ih]

theorem find?_insert (roster : Roster key α) (name other : String) (value : α) :
    (roster.insert name value).find? other =
      if key name = key other then some (name, value) else roster.find? other :=
  find?_place name other value roster.entries

theorem get?_insert (roster : Roster key α) (name other : String) (value : α) :
    (roster.insert name value).get? other =
      if key name = key other then some value else roster.get? other := by
  simp only [get?, find?_insert]
  split <;> rfl

/-- An entry of `upper` hides the one below it. -/
theorem get?_overlay (roster upper : Roster key α) (name : String) :
    (roster.overlay upper).get? name = (upper.get? name).or (roster.get? name) := by
  obtain ⟨entries, distinct⟩ := upper
  rw [overlay_eq]
  dsimp only [get?, find?]
  induction entries generalizing roster with
  | nil => simp
  | cons entry rest ih =>
    obtain ⟨apart, distinct⟩ := List.nodup_cons.mp distinct
    have below := ih (roster.insert entry.1 entry.2) distinct
    rw [insertAll_cons, below]
    change Option.or _ ((roster.insert entry.1 entry.2).get? name) = _
    rw [get?_insert]
    by_cases same : key entry.1 = key name
    · have hidden : rest.find? (fun e => key e.1 == key name) = none := by
        refine List.find?_eq_none.mpr fun e member found => apart ?_
        exact List.mem_map.mpr ⟨e, member, (beq_iff_eq.mp found).trans same.symm⟩
      simp [same, hidden]
    · simp [same, get?, find?]

theorem find?_modify (roster : Roster key α) (name other : String) (change : α → α) :
    (roster.modify name change).find? other =
      if key name = key other then (roster.find? other).map fun entry => (entry.1, change entry.2)
      else roster.find? other := by
  -- a change of value keeps the spelling, so the same entries are looked at before and after
  have spellings : (fun entry => key entry.1 == key other) ∘
      (fun entry : String × α => if key entry.1 = key name then (entry.1, change entry.2) else entry) =
        fun entry => key entry.1 == key other := by
    funext entry
    simp only [Function.comp]
    split <;> rfl
  simp only [find?, modify]
  rw [List.find?_map, spellings]
  cases found : roster.entries.find? fun entry => key entry.1 == key other with
  | none => simp
  | some entry =>
    have same : key entry.1 = key other := by simpa using List.find?_some found
    by_cases changed : key name = key other
    · simp [changed, same]
    · simp [changed, same, Ne.symm changed]

/-- A value that was just inserted is changed as if the changed one had been inserted. -/
theorem modify_insert (roster : Roster key α) (name : String) (value : α) (change : α → α) :
    (roster.insert name value).modify name change = roster.insert name (change value) := by
  refine ext ?_
  obtain ⟨entries, distinct⟩ := roster
  dsimp only [modify, insert]
  induction entries with
  | nil => simp [place]
  | cons entry rest ih =>
    obtain ⟨apart, distinct⟩ := List.nodup_cons.mp distinct
    by_cases same : key entry.1 = key name
    · have untouched : ∀ e ∈ rest, key e.1 ≠ key name := fun e member eq =>
        apart (List.mem_map.mpr ⟨e, member, eq.trans same.symm⟩)
      rw [place, place, if_pos same, if_pos same, List.map_cons, if_pos rfl]
      refine congrArg _ ((List.map_congr_left fun e member => ?_).trans (List.map_id rest))
      exact if_neg (untouched e member)
    · simp [place, same, ih distinct]

theorem modify_modify (roster : Roster key α) (name : String) (first second : α → α) :
    (roster.modify name first).modify name second = roster.modify name (second ∘ first) := by
  refine ext ?_
  simp only [modify, List.map_map]
  refine List.map_congr_left fun entry _ => ?_
  by_cases same : key entry.1 = key name <;> simp [same]

@[simp] theorem modify_same (roster : Roster key α) (name : String) :
    (roster.modify name fun value => value) = roster := by
  refine ext ?_
  simp [modify]

theorem place_of_fresh {name : String} {entries : List (String × α)}
    (fresh : key name ∉ entries.map fun entry => key entry.1) (value : α) :
    place key name value entries = entries ++ [(name, value)] := by
  induction entries with
  | nil => rfl
  | cons entry rest ih =>
    simp only [List.map_cons, List.mem_cons, not_or] at fresh
    rw [place, if_neg (Ne.symm fresh.1), ih fresh.2, List.cons_append]

/-- Pairs whose keys are new and distinct come behind the entries in their order. -/
theorem entries_insertAll {roster : Roster key α} {pairs : List (String × α)}
    (distinct : ((roster.entries ++ pairs).map fun entry => key entry.1).Nodup) :
    (roster.insertAll pairs).entries = roster.entries ++ pairs := by
  induction pairs generalizing roster with
  | nil => simp
  | cons pair pairs ih =>
    have fresh : key pair.1 ∉ roster.entries.map fun entry => key entry.1 := by
      rw [List.map_append, List.map_cons] at distinct
      exact fun member => (List.nodup_append.mp distinct).2.2 _ member _ List.mem_cons_self rfl
    have placed : (roster.insert pair.1 pair.2).entries = roster.entries ++ [pair] :=
      place_of_fresh fresh pair.2
    rw [insertAll_cons, ih (by rwa [placed, List.append_assoc, List.singleton_append]), placed,
      List.append_assoc, List.singleton_append]

theorem mem_of_mem_place {name : String} {value : α} {entries : List (String × α)} {entry : String × α}
    (member : entry ∈ place key name value entries) : entry = (name, value) ∨ entry ∈ entries := by
  induction entries with
  | nil => exact .inl (List.mem_singleton.mp member)
  | cons first rest ih =>
    rw [place] at member
    split at member
    · rcases List.mem_cons.mp member with new | old
      · exact .inl new
      · exact .inr (List.mem_cons_of_mem _ old)
    · rcases List.mem_cons.mp member with rfl | later
      · exact .inr List.mem_cons_self
      · exact (ih later).imp_right (List.mem_cons_of_mem _)

theorem mem_of_mem_insertAll {roster : Roster key α} {pairs : List (String × α)} {entry : String × α}
    (member : entry ∈ (roster.insertAll pairs).entries) : entry ∈ roster.entries ∨ entry ∈ pairs := by
  induction pairs generalizing roster with
  | nil => exact .inl member
  | cons pair pairs ih =>
    rcases ih member with before | later
    · rcases mem_of_mem_place before with rfl | old
      · exact .inr List.mem_cons_self
      · exact .inl old
    · exact .inr (List.mem_cons_of_mem _ later)

theorem mem_of_mem_ofList {pairs : List (String × α)} {entry : String × α}
    (member : entry ∈ (ofList pairs : Roster key α).entries) : entry ∈ pairs := by
  have inside : entry ∈ (empty : Roster key α).entries ∨ entry ∈ pairs := mem_of_mem_insertAll member
  rcases inside with none | given
  · cases none
  · exact given

/-- A roster is what its entries make up. -/
theorem ofList_entries (roster : Roster key α) : ofList roster.entries = roster :=
  ext (@entries_insertAll key α empty roster.entries roster.distinct)

end RequestBook.Roster
