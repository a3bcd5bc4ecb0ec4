import RequestBook.Proofs.Independence
import RequestBook.Proofs.Nesting

/-! What is left when a text is resolved. In a strict text braces stand only around groups. If the
values of the variables are strict as well, and no variable leads back to itself, then the resolved
text is strict, and the groups in it are those for which there was nothing to put in. Resolving it
again changes nothing. -/
namespace RequestBook

/-- A text made up of parts without braces and of groups. -/
def Strict (text : List Char) : Prop :=
  ∃ parts : List (List Char), text = parts.flatten ∧
    ∀ part ∈ parts, Braceless part ∨ ∃ inner, Braceless inner ∧ part = groupText inner

def Piece.Clean : Piece → Prop
  | .char c => isBrace c = false
  | .group inner => Braceless inner

theorem Apart.of_clean {ps : List Piece} (clean : ∀ piece ∈ ps, piece.Clean) : Apart ps := by
  induction ps with
  | nil => trivial
  | cons piece ps ih =>
    obtain ⟨first, others⟩ := List.forall_mem_cons.mp clean
    cases piece with
    | char c =>
      refine ⟨?_, ih others⟩
      rintro rfl
      simp [Piece.Clean, isBrace] at first
    | group inner => exact ⟨first, ih others⟩

theorem exists_clean {parts : List (List Char)}
    (strict : ∀ part ∈ parts, Braceless part ∨ ∃ inner, Braceless inner ∧ part = groupText inner) :
    ∃ ps : List Piece, (∀ piece ∈ ps, piece.Clean) ∧ ps.flatMap Piece.text = parts.flatten := by
  induction parts with
  | nil => exact ⟨[], by simp, rfl⟩
  | cons part parts ih =>
    obtain ⟨first, others⟩ := List.forall_mem_cons.mp strict
    obtain ⟨ps, clean, text⟩ := ih others
    rcases first with braceless | ⟨inner, braceless, rfl⟩
    · refine ⟨part.map Piece.char ++ ps, ?_, ?_⟩
      · intro piece member
        rcases List.mem_append.mp member with plain | later
        · obtain ⟨c, inside, rfl⟩ := List.mem_map.mp plain
          exact braceless c inside
        · exact clean piece later
      · rw [List.flatMap_append, text, List.flatMap_map, List.flatten_cons]
        simp [Piece.text]
    · refine ⟨.group inner :: ps, List.forall_mem_cons.mpr ⟨braceless, clean⟩, ?_⟩
      rw [List.flatMap_cons, text, List.flatten_cons]
      rfl

theorem strict_iff {text : List Char} : Strict text ↔ ∀ piece ∈ pieces text, piece.Clean := by
  constructor
  · rintro ⟨parts, rfl, strict⟩
    obtain ⟨ps, clean, text⟩ := exists_clean strict
    rw [← text, pieces_text (.of_clean clean)]
    exact clean
  · intro clean
    refine ⟨(pieces text).map Piece.text, ?_, ?_⟩
    · rw [← List.flatMap_def, text_pieces]
    · intro part member
      obtain ⟨piece, inside, rfl⟩ := List.mem_map.mp member
      have plain := clean piece inside
      cases piece with
      | char c =>
        left
        intro d only
        exact List.mem_singleton.mp only ▸ plain
      | group inner => exact .inr ⟨inner, plain, rfl⟩

instance : DecidablePred Piece.Clean := fun piece =>
  match piece with
  | .char c => inferInstanceAs (Decidable (isBrace c = false))
  | .group inner => inferInstanceAs (Decidable (Braceless inner))

instance : DecidablePred Strict := fun _ => decidable_of_iff _ strict_iff.symm

theorem strict_of_braceless {text : List Char} (braceless : Braceless text) : Strict text :=
  ⟨[text], by simp, by simpa using .inl braceless⟩

theorem strict_groupText {inner : List Char} (braceless : Braceless inner) : Strict (groupText inner) :=
  ⟨[groupText inner], by simp, by simpa using .inr ⟨inner, braceless, rfl⟩⟩

theorem pieces_flatMap {ps : List Piece} {change : Piece → List Char}
    (strict : ∀ piece ∈ ps, Strict (change piece)) :
    pieces (ps.flatMap change) = ps.flatMap fun piece => pieces (change piece) := by
  have clean : ∀ piece ∈ ps.flatMap fun piece => pieces (change piece), piece.Clean := by
    intro piece member
    obtain ⟨source, inside, found⟩ := List.mem_flatMap.mp member
    exact strict_iff.mp (strict source inside) piece found
  rw [← pieces_text (.of_clean clean), List.flatMap_assoc]
  simp only [text_pieces]

theorem Strict.flatMap {ps : List Piece} {change : Piece → List Char}
    (strict : ∀ piece ∈ ps, Strict (change piece)) : Strict (ps.flatMap change) := by
  rw [strict_iff, pieces_flatMap strict]
  intro piece member
  obtain ⟨source, inside, found⟩ := List.mem_flatMap.mp member
  exact strict_iff.mp (strict source inside) piece found

theorem Strict.tidy {text : List Char} (strict : Strict text) : Tidy text := by
  obtain ⟨parts, rfl, strict⟩ := strict
  induction parts with
  | nil => exact isTidy_iff.mp rfl
  | cons part parts ih =>
    obtain ⟨first, others⟩ := List.forall_mem_cons.mp strict
    rw [List.flatten_cons]
    rcases first with braceless | ⟨inner, braceless, rfl⟩
    · exact (ih others).behind fun c member => braceless.ne_opening member
    · exact (ih others).behind_group braceless

/-- A text with a group has a pair of opening braces. -/
theorem hasOpening_of_mem_pieces {text inner : List Char} (member : .group inner ∈ pieces text) :
    hasOpening text = true := by
  fun_induction pieces text with
  | case1 => cases member
  | case2 => rfl
  | case3 => rfl
  | case4 c rest single ih =>
    have later : hasOpening rest = true := by
      rcases List.mem_cons.mp member with same | later
      · cases same
      · exact ih later
    unfold hasOpening
    split
    next => rfl
    next same =>
      cases same
      exact later
    next same => cases same

/-- What is reached through one reached variable is reached. -/
theorem Reached.trans {value : String → Option String} {start : List String} {name other text : String}
    (first : Reached value start name) (found : value name = some text)
    (second : Reached value (variablesIn text.toList) other) : Reached value start other := by
  induction second with
  | start named => exact .through first found named
  | through _ found named ih => exact .through ih found named

namespace Context

variable {ctx : Context}

/-- The value of the variable `name` mentions the variable `other`. -/
def Mentions (ctx : Context) (name other : String) : Prop :=
  ∃ value, ctx.scope.get? name = some value ∧ other ∈ variablesIn value.toList

/-- A group stands in a text, or in the value of a variable that the text leads to. -/
def Meets (ctx : Context) (text inner : List Char) : Prop :=
  .group inner ∈ pieces text ∨
    ∃ name value, Reached ctx.scope.get? (variablesIn text) name ∧ ctx.scope.get? name = some value ∧
      .group inner ∈ pieces value.toList

theorem Meets.through {text inner : List Char} {name value : String}
    (named : name ∈ variablesIn text) (found : ctx.scope.get? name = some value)
    (meets : ctx.Meets value.toList inner) : ctx.Meets text inner := by
  rcases meets with own | ⟨other, value', reached, found', member⟩
  · exact .inr ⟨name, value, .start named, found, own⟩
  · exact .inr ⟨other, value', .trans (.start named) found reached, found', member⟩

/-- There is nothing to put in for a group: no captured and no generated value, and no variable. -/
structure Unresolvable (ctx : Context) (inner : List Char) : Prop where
  uncaptured : ctx.captured? inner = none
  ungenerated : ctx.generated? inner = none
  unbound : ∀ name, variableName? inner = some name → ctx.scope.get? name = none

theorem Unresolvable.placed?_eq {inner : List Char} (idle : ctx.Unresolvable inner) (deeper : Nat)
    (opened : List String) : ctx.placed? deeper opened inner = none := by
  have unbound : ctx.bound? deeper opened inner = none := by
    cases named : variableName? inner with
    | none => simp [bound?, named]
    | some name => simp [bound?, named, idle.unbound name named]
  rw [placed?, idle.uncaptured, idle.ungenerated, unbound]
  rfl

/-- What a text may become: a strict text whose groups stood in the text or in values that it leads
to, and cannot be resolved. -/
structure Settled (ctx : Context) (text result : List Char) : Prop where
  strict : Strict result
  left : ∀ inner, .group inner ∈ pieces result → ctx.Unresolvable inner ∧ ctx.Meets text inner

theorem settled_of_braceless {text result : List Char} (braceless : Braceless result) :
    ctx.Settled text result where
  strict := strict_of_braceless braceless
  left := by
    intro inner member
    have opening : '{' ∈ result := by
      rw [← text_pieces result]
      exact List.mem_flatMap.mpr ⟨.group inner, member, List.mem_cons_self⟩
    exact absurd rfl (braceless.ne_opening opening)

theorem settled_groupText {text inner : List Char} (member : .group inner ∈ pieces text)
    (idle : ctx.Unresolvable inner) : ctx.Settled text (groupText inner) where
  strict := strict_groupText (braceless_of_mem_pieces member)
  left := by
    intro other inside
    rw [pieces_groupText (braceless_of_mem_pieces member), List.mem_singleton] at inside
    cases inside
    exact ⟨idle, .inl member⟩

theorem settled_flatMap {text : List Char} {ps : List Piece} {change : Piece → List Char}
    (each : ∀ piece ∈ ps, ctx.Settled text (change piece)) : ctx.Settled text (ps.flatMap change) where
  strict := .flatMap fun piece member => (each piece member).strict
  left := by
    intro inner member
    rw [pieces_flatMap fun piece member => (each piece member).strict] at member
    obtain ⟨piece, inside, found⟩ := List.mem_flatMap.mp member
    exact (each piece inside).left inner found

/-- What the value of a variable becomes, a text that names the variable may become. -/
theorem Settled.through {text result : List Char} {name value : String}
    (settled : ctx.Settled value.toList result) (named : name ∈ variablesIn text)
    (found : ctx.scope.get? name = some value) : ctx.Settled text result where
  strict := settled.strict
  left inner member :=
    ⟨(settled.left inner member).1, .through named found (settled.left inner member).2⟩

theorem resolveWithin_of_unopened {text : List Char} (unopened : hasOpening text = false) (deeper : Nat)
    (opened : List String) : ctx.resolveWithin deeper opened text = text := by
  have same : ∀ change, replaceGroups change text = text := by
    intro change
    refine replaceGroups_eq_self fun inner member => ?_
    rw [hasOpening_of_mem_pieces member] at unopened
    cases unopened
  rw [resolveWithin_eq, same, same, same]

/-- The value of a variable that is not open is resolved, whether it has placeholders or not. -/
theorem bound?_of_closed {inner : List Char} {name value : String} {opened : List String}
    (named : variableName? inner = some name) (found : ctx.scope.get? name = some value)
    (closed : name ∉ opened) (deeper : Nat) :
    ctx.bound? (deeper + 1) opened inner =
      some (ctx.resolveWithin deeper (name :: opened) value.toList) := by
  cases opening : hasOpening value.toList with
  | true => simp [bound?, named, found, closed, opening]
  | false => simp [bound?, named, found, opening, resolveWithin_of_unopened opening]

/-- The open variables lead to all that a text names. -/
def Above (ctx : Context) (opened : List String) (text : List Char) : Prop :=
  ∀ name ∈ opened, ∀ other ∈ variablesIn text, Relation.TransGen ctx.Mentions name other

section Above

variable {opened : List String} {text : List Char} {name value : String}

theorem Above.closed (above : ctx.Above opened text) (named : name ∈ variablesIn text)
    (acyclic : ∀ name, ¬ Relation.TransGen ctx.Mentions name name) : name ∉ opened :=
  fun inside => acyclic name (above name inside name named)

theorem Above.enter (above : ctx.Above opened text) (named : name ∈ variablesIn text)
    (found : ctx.scope.get? name = some value) : ctx.Above (name :: opened) value.toList := by
  intro other inside next there
  have mentions : ctx.Mentions name next := ⟨value, found, there⟩
  rcases List.mem_cons.mp inside with rfl | before
  · exact .single mentions
  · exact (above other before name named).tail mentions

end Above

/-- A text is settled when it is resolved. The induction is on how much deeper values may be opened.
The open variables lead to those that the text names, so none of these is open; and as many more may
be opened as there are left. -/
theorem settled_resolveWithin
    (values : ∀ name value, ctx.scope.get? name = some value →
      Strict value.toList ∧ ctx.Plain value.toList)
    (acyclic : ∀ name, ¬ Relation.TransGen ctx.Mentions name name)
    {deeper depth : Nat} {opened : List String} {text : List Char} (strict : Strict text)
    (plain : ctx.Plain text) (opens : OpenAt ctx.scope depth opened)
    (fits : ctx.scope.size ≤ deeper + depth) (above : ctx.Above opened text) :
    ctx.Settled text (ctx.resolveWithin deeper opened text) := by
  induction deeper using Nat.strong_induction_on generalizing depth opened text with
  | _ deeper ih =>
    rw [resolveWithin_tidy strict.tidy plain]
    refine settled_flatMap fun piece member => ?_
    cases piece with
    | char c =>
      have clean : isBrace c = false := strict_iff.mp strict _ member
      exact settled_of_braceless (by simpa [Braceless, Piece.replace] using clean)
    | group inner =>
      cases put : (ctx.captured? inner).or (ctx.generated? inner) with
      | some new =>
        rw [Piece.replace, placed?, put]
        exact settled_of_braceless (plain inner member new put)
      | none =>
        obtain ⟨uncaptured, ungenerated⟩ := Option.or_eq_none_iff.mp put
        cases bound : (variableName? inner).bind ctx.scope.get? with
        | none =>
          have idle : ctx.Unresolvable inner := by
            refine ⟨uncaptured, ungenerated, fun name named => ?_⟩
            rw [named] at bound
            exact bound
          rw [Piece.replace, idle.placed?_eq]
          exact settled_groupText member idle
        | some value =>
          obtain ⟨name, spelled, found⟩ := Option.bind_eq_some_iff.mp bound
          have named : name ∈ variablesIn text := mem_variablesIn member spelled
          have closed : name ∉ opened := above.closed named acyclic
          have entered := opens.enter found closed
          have allowed : 0 < deeper := by
            have := entered.le_size
            omega
          obtain ⟨less, rfl⟩ := Nat.exists_eq_add_one_of_ne_zero allowed.ne'
          obtain ⟨strictValue, plainValue⟩ := values name value found
          have inside : ctx.Settled value.toList (ctx.resolveWithin less (name :: opened) value.toList) :=
            ih less (by omega) strictValue plainValue entered (by omega) (above.enter named found)
          rw [Piece.replace, placed?, put, Option.none_or, bound?_of_closed spelled found closed]
          exact inside.through named found

/-- Nothing is left to resolve in a settled text. -/
theorem Settled.resolve_eq {text : List Char} {result : String}
    (settled : ctx.Settled text result.toList) (depth : Nat) : ctx.resolve depth result = result := by
  have plain : ctx.Plain result.toList := by
    intro inner member new put
    have idle := (settled.left inner member).1
    rw [idle.uncaptured, idle.ungenerated] at put
    cases put
  have same : replaceGroups (ctx.placed? (depth - 1) []) result.toList = result.toList :=
    replaceGroups_eq_self fun inner member => (settled.left inner member).1.placed?_eq _ _
  rw [resolve, resolveWithin_tidy settled.strict.tidy plain, same, String.ofList_toList]

/-- The result of resolving a text, when nothing more can be resolved in it. -/
structure Final (ctx : Context) (text result : String) : Prop where
  strict : Strict result.toList
  /-- no group names a variable of the scope -/
  unnamed : ∀ name ∈ variablesIn result.toList, ctx.scope.get? name = none
  /-- a group that is left stands in the text or in a value that it leads to, and there is nothing to
  put in for it -/
  left : ∀ inner, .group inner ∈ pieces result.toList →
    ctx.Unresolvable inner ∧ ctx.Meets text.toList inner
  /-- resolving it again changes nothing -/
  stable : ∀ depth, ctx.resolve depth result = result

theorem Settled.final {text result : String} (settled : ctx.Settled text.toList result.toList) :
    ctx.Final text result where
  strict := settled.strict
  unnamed := by
    intro name member
    obtain ⟨piece, inside, named⟩ := List.mem_filterMap.mp member
    cases piece with
    | char c => cases named
    | group inner => exact (settled.left inner inside).1.unbound name named
  left := settled.left
  stable := settled.resolve_eq

/-- Strict texts are resolved as far as they can be, if no variable leads back to itself, values are
strict, more of them may be opened than there are, and nothing with braces is captured or generated
for the groups. -/
theorem final_of_strict
    (values : ∀ name value, ctx.scope.get? name = some value →
      Strict value.toList ∧ ctx.Plain value.toList)
    (acyclic : ∀ name, ¬ Relation.TransGen ctx.Mentions name name) {depth : Nat}
    (deep : ctx.scope.size < depth) {text : String} (strict : Strict text.toList)
    (plain : ctx.Plain text.toList) : ctx.Final text (ctx.resolve depth text) := by
  have settled : ctx.Settled text.toList (ctx.resolve depth text).toList := by
    rw [resolve, String.toList_ofList]
    exact settled_resolveWithin values acyclic strict plain (openAt_nil ctx.scope) (by omega)
      fun _ none => absurd none List.not_mem_nil
  exact settled.final

/-- No variable leads back to itself if each only mentions later ones. -/
theorem acyclic_of_later
    (later : ∀ entry ∈ ctx.scope.entries, ∀ other ∈ variablesIn entry.2.toList,
      (ctx.scope.entries.map Prod.fst).idxOf entry.1 < (ctx.scope.entries.map Prod.fst).idxOf other) :
    ∀ name, ¬ Relation.TransGen ctx.Mentions name name := by
  have step : ∀ name other, ctx.Mentions name other →
      (ctx.scope.entries.map Prod.fst).idxOf name < (ctx.scope.entries.map Prod.fst).idxOf other := by
    rintro name other ⟨value, found, member⟩
    obtain ⟨entry, inside, same, rfl⟩ := Roster.mem_of_get? found
    exact (show entry.1 = name from same) ▸ later entry inside other member
  have rises : ∀ name other, Relation.TransGen ctx.Mentions name other →
      (ctx.scope.entries.map Prod.fst).idxOf name < (ctx.scope.entries.map Prod.fst).idxOf other := by
    intro name other leads
    induction leads with
    | single edge => exact step _ _ edge
    | tail _ edge ih => exact ih.trans (step _ _ edge)
  exact fun name leads => (rises name name leads).false

def supplied (ctx : Context) : Piece → List Char
  | .char _ => []
  | .group inner => ((ctx.captured? inner).or (ctx.generated? inner)).getD []

theorem plain_iff {text : List Char} :
    ctx.Plain text ↔ ∀ piece ∈ pieces text, Braceless (ctx.supplied piece) := by
  constructor
  · intro plain piece member
    cases piece with
    | char c => simp [supplied, Braceless]
    | group inner =>
      cases put : (ctx.captured? inner).or (ctx.generated? inner) with
      | none => simp [supplied, put, Braceless]
      | some new => simpa [supplied, put] using plain inner member new put
  · intro all inner member new put
    simpa [supplied, put] using all (.group inner) member

instance : DecidablePred ctx.Plain := fun _ => decidable_of_iff _ plain_iff.symm

/-- Variables that mention later ones, one of them under the name of a reference; one captured exchange
and one generated value. -/
def layered : Context where
  scope := .ofList [("base", "https://{{host}}/v{{n}}"), ("host", "{{zone}}.{{login.response.body.id}}"),
    ("zone", "eu{{gap}}"), ("n", "2"), ("login.response.body.id", "{{$now}}")]
  store := .ofList [("auth", ⟨200, "t1", .empty, none, .empty⟩)]
  generate name _ := if name = "now" then some "7" else none

def layeredText : String := "{{base}}/{{auth.response.body.*}}?x={{ $nope 1 }}"

theorem final_layered :
    layered.resolve 6 layeredText = "https://eu{{gap}}.7/v2/t1?x={{ $nope 1 }}" ∧
    layered.Final layeredText "https://eu{{gap}}.7/v2/t1?x={{ $nope 1 }}" := by
  have resolved : layered.resolve 6 layeredText = "https://eu{{gap}}.7/v2/t1?x={{ $nope 1 }}" := by
    decide +kernel
  have entries : ∀ entry ∈ layered.scope.entries,
      Strict entry.2.toList ∧ layered.Plain entry.2.toList := by decide +kernel
  have later : ∀ entry ∈ layered.scope.entries, ∀ other ∈ variablesIn entry.2.toList,
      (layered.scope.entries.map Prod.fst).idxOf entry.1 <
        (layered.scope.entries.map Prod.fst).idxOf other := by decide +kernel
  have values : ∀ name value, layered.scope.get? name = some value →
      Strict value.toList ∧ layered.Plain value.toList := by
    intro name value found
    obtain ⟨entry, inside, _, rfl⟩ := Roster.mem_of_get? found
    exact entries entry inside
  have final : layered.Final layeredText (layered.resolve 6 layeredText) :=
    final_of_strict values (acyclic_of_later later) (by decide +kernel) (by decide +kernel)
      (by decide +kernel)
  rw [resolved] at final
  exact ⟨resolved, final⟩

end Context

end RequestBook
