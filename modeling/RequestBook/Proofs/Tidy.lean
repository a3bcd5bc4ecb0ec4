import Mathlib.Data.List.Basic
import Mathlib.Data.List.TakeWhile
import RequestBook.Template

/-! Tidy texts, in which every pair of opening braces belongs to a group. When groups of a tidy text
are replaced by texts without braces, the groups that are left are found again and no new ones
appear. Resolving such a text in stages is therefore the same as resolving each group by itself. -/
namespace RequestBook

def Braceless (text : List Char) : Prop := ∀ c ∈ text, isBrace c = false

/-- Behind every pair of opening braces comes a text without braces and a pair of closing ones. -/
def Tidy (text : List Char) : Prop :=
  ∀ before after, text = before ++ '{' :: '{' :: after →
    ∃ inner rest, after = inner ++ '}' :: '}' :: rest ∧ Braceless inner

theorem Tidy.tail {text : List Char} {c : Char} (tidy : Tidy (c :: text)) : Tidy text := by
  intro before after eq
  exact tidy (c :: before) after (by rw [eq, List.cons_append])

theorem Tidy.right {first second : List Char} (tidy : Tidy (first ++ second)) : Tidy second := by
  intro before after eq
  exact tidy (first ++ before) after (by rw [eq, List.append_assoc])

theorem groupInner?_eq_some {text inner after : List Char} :
    groupInner? text = some (inner, after) ↔
      text = inner ++ '}' :: '}' :: after ∧ Braceless inner := by
  unfold groupInner?
  constructor
  · intro found
    split at found
    next rest =>
      cases found
      refine ⟨?_, fun c member => ?_⟩
      · rw [← rest, List.takeWhile_append_dropWhile]
      · simpa using List.mem_takeWhile_imp member
    next => cases found
  · rintro ⟨rfl, braceless⟩
    have all : ∀ c ∈ inner, (!isBrace c) = true := by simpa [Braceless] using braceless
    rw [List.dropWhile_append_of_pos all, List.takeWhile_append_of_pos all]
    simp [isBrace]

def startsTidy : List Char → Bool
  | '{' :: '{' :: after => (groupInner? after).isSome
  | _ => true

def isTidy : List Char → Bool
  | [] => true
  | c :: rest => startsTidy (c :: rest) && isTidy rest

theorem tidy_cons {c : Char} {rest : List Char} :
    Tidy (c :: rest) ↔
      (∀ after, c = '{' → rest = '{' :: after → (groupInner? after).isSome = true) ∧ Tidy rest := by
  refine ⟨fun tidy => ⟨?_, tidy.tail⟩, fun ⟨head, tail⟩ => ?_⟩
  · rintro after rfl rfl
    obtain ⟨inner, more, rfl, braceless⟩ := tidy [] after rfl
    rw [groupInner?_eq_some.mpr ⟨rfl, braceless⟩]
    rfl
  · intro before after eq
    cases before with
    | nil =>
      cases eq
      obtain ⟨⟨inner, more⟩, found⟩ := Option.isSome_iff_exists.mp (head after rfl rfl)
      exact ⟨inner, more, groupInner?_eq_some.mp found⟩
    | cons b before =>
      cases eq
      exact tail before after rfl

theorem isTidy_iff {text : List Char} : isTidy text = true ↔ Tidy text := by
  induction text with
  | nil => simp [isTidy, Tidy]
  | cons c rest ih =>
    rw [tidy_cons, isTidy, Bool.and_eq_true, ih]
    refine and_congr_left fun _ => ?_
    unfold startsTidy
    split
    next after eq =>
      cases eq
      simp
    next other =>
      simp only [true_iff]
      rintro after rfl rfl
      exact absurd rfl (other after)

instance : DecidablePred Tidy := fun _ => decidable_of_iff _ isTidy_iff

instance : DecidablePred Braceless := fun text =>
  List.decidableBAll (fun c => isBrace c = false) text

/-- A character does not open a group if no second opening brace follows a first one. -/
theorem pieces_char {c : Char} {rest : List Char} (single : c = '{' → rest.head? ≠ some '{') :
    pieces (c :: rest) = .char c :: pieces rest := by
  rw [pieces.eq_def]
  split
  next eq => cases eq
  next eq =>
    cases eq
    exact absurd rfl (single rfl)
  next eq =>
    cases eq
    rfl

theorem pieces_group {inner : List Char} (braceless : Braceless inner) (rest : List Char) :
    pieces (groupText inner ++ rest) = .group inner :: pieces rest := by
  have found : groupInner? (inner ++ '}' :: '}' :: rest) = some (inner, rest) :=
    groupInner?_eq_some.mpr ⟨rfl, braceless⟩
  have text : groupText inner ++ rest = '{' :: '{' :: (inner ++ '}' :: '}' :: rest) := by
    simp [groupText]
  rw [text, pieces]
  split
  next inside after other =>
    rw [found] at other
    cases other
    rfl
  next other =>
    rw [found] at other
    cases other

theorem text_pieces (text : List Char) : (pieces text).flatMap Piece.text = text := by
  fun_induction pieces text with
  | case1 => rfl
  | case2 rest inner after found shorter ih =>
    obtain ⟨eq, _⟩ := groupInner?_eq_some.mp found
    rw [List.flatMap_cons, ih, eq]
    simp [Piece.text, groupText]
  | case3 rest none ih => rw [List.flatMap_cons, ih]; rfl
  | case4 c rest other ih => rw [List.flatMap_cons, ih]; rfl

/-- Pieces that are found again in their own text: no opening brace stands before another. -/
def Apart : List Piece → Prop
  | [] => True
  | .char c :: rest => (c = '{' → (rest.flatMap Piece.text).head? ≠ some '{') ∧ Apart rest
  | .group inner :: rest => Braceless inner ∧ Apart rest

theorem pieces_text {ps : List Piece} (apart : Apart ps) : pieces (ps.flatMap Piece.text) = ps := by
  induction ps with
  | nil => rw [List.flatMap_nil, pieces]
  | cons piece rest ih =>
    rw [List.flatMap_cons]
    cases piece with
    | char c => exact (pieces_char apart.1).trans (by rw [ih apart.2])
    | group inner => exact (pieces_group apart.1 _).trans (by rw [ih apart.2])

theorem Tidy.apart {text : List Char} (tidy : Tidy text) : Apart (pieces text) := by
  fun_induction pieces text with
  | case1 => trivial
  | case2 rest inner after found shorter ih =>
    obtain ⟨rfl, braceless⟩ := groupInner?_eq_some.mp found
    have behind : Tidy ('}' :: '}' :: after) := tidy.tail.tail.right
    exact ⟨braceless, ih behind.tail.tail⟩
  | case3 rest none ih =>
    obtain ⟨inner, after, rfl, braceless⟩ := tidy [] rest rfl
    rw [groupInner?_eq_some.mpr ⟨rfl, braceless⟩] at none
    cases none
  | case4 c rest single ih =>
    refine ⟨?_, ih tidy.tail⟩
    rintro rfl opening
    rw [text_pieces] at opening
    obtain ⟨after, rfl⟩ := List.head?_eq_some_iff.mp opening
    exact single after rfl rfl

def Piece.expand (change : List Char → Option (List Char)) : Piece → List Piece
  | .char c => [.char c]
  | .group inner =>
    match change inner with
    | some new => new.map Piece.char
    | none => [.group inner]

theorem Piece.text_expand (change : List Char → Option (List Char)) (piece : Piece) :
    (piece.expand change).flatMap Piece.text = piece.replace change := by
  cases piece with
  | char c => rfl
  | group inner =>
    cases found : change inner with
    | none => simp [Piece.expand, Piece.replace, found, Piece.text]
    | some new => simp [Piece.expand, Piece.replace, found, List.flatMap_map, Piece.text]

theorem Apart.chars_append {text : List Char} (braceless : Braceless text) {ps : List Piece}
    (apart : Apart ps) : Apart (text.map Piece.char ++ ps) := by
  induction text with
  | nil => exact apart
  | cons c rest ih =>
    refine ⟨?_, ih fun other member => braceless other (List.mem_cons_of_mem _ member)⟩
    rintro rfl
    exact absurd (braceless '{' List.mem_cons_self) (by simp [isBrace])

/-- An opening brace that stands before no other does so after groups were replaced. -/
theorem head?_expand {ps : List Piece} (change : List Char → Option (List Char))
    (single : (ps.flatMap Piece.text).head? ≠ some '{') :
    ((ps.flatMap (Piece.expand change)).flatMap Piece.text).head? ≠ some '{' := by
  cases ps with
  | nil => simp
  | cons piece rest =>
    cases piece with
    | char c => exact single
    | group inner => exact absurd rfl single

theorem Apart.expand {ps : List Piece} (apart : Apart ps) {change : List Char → Option (List Char)}
    (braceless : ∀ inner, .group inner ∈ ps → ∀ new, change inner = some new → Braceless new) :
    Apart (ps.flatMap (Piece.expand change)) := by
  induction ps with
  | nil => trivial
  | cons piece rest ih =>
    have others : Apart (rest.flatMap (Piece.expand change)) := by
      refine ih ?_ fun inner member => braceless inner (List.mem_cons_of_mem _ member)
      cases piece <;> exact apart.2
    rw [List.flatMap_cons]
    cases piece with
    | char c => exact ⟨fun opening => head?_expand change (apart.1 opening), others⟩
    | group inner =>
      cases found : change inner with
      | none =>
        rw [Piece.expand, found]
        exact ⟨apart.1, others⟩
      | some new =>
        rw [Piece.expand, found]
        exact others.chars_append (braceless inner List.mem_cons_self new found)

/-- In a tidy text a second replacement meets only the groups that the first one left. -/
theorem replaceGroups_replaceGroups {text : List Char} (tidy : Tidy text)
    {first : List Char → Option (List Char)} (second : List Char → Option (List Char))
    (braceless : ∀ inner, .group inner ∈ pieces text → ∀ new, first inner = some new →
      Braceless new) :
    replaceGroups second (replaceGroups first text) =
      replaceGroups (fun inner => (first inner).or (second inner)) text := by
  have parts : pieces (replaceGroups first text) = (pieces text).flatMap (Piece.expand first) := by
    rw [← pieces_text (tidy.apart.expand braceless), List.flatMap_assoc]
    simp only [Piece.text_expand]
    rfl
  rw [replaceGroups, parts, List.flatMap_assoc]
  refine List.flatMap_congr fun piece _ => ?_
  cases piece with
  | char c => rfl
  | group inner =>
    cases found : first inner with
    | none => simp [Piece.expand, Piece.replace, found]
    | some new => simp [Piece.expand, Piece.replace, found, List.flatMap_map]

/-- Replacements that agree on the groups of a text have the same result. -/
theorem replaceGroups_congr {text : List Char} {first second : List Char → Option (List Char)}
    (same : ∀ inner, .group inner ∈ pieces text → first inner = second inner) :
    replaceGroups first text = replaceGroups second text := by
  refine List.flatMap_congr fun piece member => ?_
  cases piece with
  | char c => rfl
  | group inner => rw [Piece.replace, Piece.replace, same inner member]

/-- Replacing groups for which there is nothing to put in changes nothing. -/
theorem replaceGroups_eq_self {text : List Char} {change : List Char → Option (List Char)}
    (none : ∀ inner, .group inner ∈ pieces text → change inner = none) :
    replaceGroups change text = text := by
  have kept : replaceGroups change text = replaceGroups (fun _ => Option.none) text :=
    replaceGroups_congr none
  rw [kept]
  refine (List.flatMap_congr fun piece _ => ?_).trans (text_pieces text)
  cases piece <;> rfl

theorem replaceGroupsAt_const (change : List Char → Option (List Char)) (text : List Char) :
    replaceGroupsAt (fun _ => change) text = replaceGroups change text := by
  have same : (pieces text).mapIdx (fun _ => Piece.replace change) =
      (pieces text).map (Piece.replace change) :=
    List.mapIdx_eq_iff.mpr (by simp)
  rw [replaceGroups, List.flatMap_def, ← same]
  rfl

theorem replaceGroupsAt_congr {text : List Char} {first second : Nat → List Char → Option (List Char)}
    (same : ∀ i inner, .group inner ∈ pieces text → first i inner = second i inner) :
    replaceGroupsAt first text = replaceGroupsAt second text := by
  refine congrArg List.flatten (List.mapIdx_eq_mapIdx_iff.mpr fun i inside => ?_)
  cases piece : (pieces text)[i] with
  | char c => rfl
  | group inner =>
    have member : .group inner ∈ pieces text := piece ▸ List.getElem_mem inside
    rw [Piece.replace, Piece.replace, same i inner member]

section Places

variable {scope : Variables} {store : Store}

/-- What a value with placeholders becomes where its variable is opened, if that is not too deep. -/
def openedValue? (scope : Variables) (store : Store) (generation : Generation) (deeper : Nat)
    (opened : List String) (place : Place) (name : String) (value : List Char) : Option (List Char) :=
  match deeper with
  | 0 => none
  | deeper + 1 => some (resolveAt scope store generation deeper (name :: opened) place value)

theorem resolveAt_eq (generation : Generation) (deeper : Nat) (opened : List String) (place : Place)
    (text : List Char) : resolveAt scope store generation deeper opened place text =
      replaceGroupsAt (fun i => variableValue? scope opened
          (openedValue? scope store generation deeper opened (i :: place)))
        (replaceGroupsAt (fun i => generation.asked? (i :: place)) (store.resolveAll text)) := by
  cases deeper <;> rfl

/-- Values are opened in the same way where all values of the scope become the same. -/
theorem variableValue?_congr {opened : List String} {inner : List Char}
    {first second : String → List Char → Option (List Char)}
    (same : ∀ name value, scope.get? name = some value → first name value.toList = second name value.toList) :
    variableValue? scope opened first inner = variableValue? scope opened second inner := by
  cases named : variableName? inner with
  | none => simp [variableValue?, named]
  | some name =>
    cases found : scope.get? name with
    | none => simp [variableValue?, named, found]
    | some value => simp [variableValue?, named, found, same name value found]

/-- Generations make no difference that no group asks about once references are replaced. The induction is
on how much deeper values may be opened. -/
theorem resolveAt_congr {first second : Generation} (Silent : List Char → Prop)
    (same : ∀ text, Silent text → ∀ inner, .group inner ∈ pieces (store.resolveAll text) →
      ∀ place, first.asked? place inner = second.asked? place inner)
    (values : ∀ name value, scope.get? name = some value → Silent value.toList)
    (deeper : Nat) (opened : List String) (place : Place) {text : List Char} (silent : Silent text) :
    resolveAt scope store first deeper opened place text =
      resolveAt scope store second deeper opened place text := by
  have asked {text : List Char} (silent : Silent text) (place : Place) :
      replaceGroupsAt (fun i => first.asked? (i :: place)) (store.resolveAll text) =
        replaceGroupsAt (fun i => second.asked? (i :: place)) (store.resolveAll text) :=
    replaceGroupsAt_congr fun i inner member => same text silent inner member (i :: place)
  induction deeper generalizing opened place text with
  | zero =>
    rw [resolveAt_eq, resolveAt_eq, asked silent place]
    rfl
  | succ deeper ih =>
    rw [resolveAt_eq, resolveAt_eq, asked silent place]
    refine replaceGroupsAt_congr fun i inner _ => variableValue?_congr fun name value found => ?_
    exact congrArg some (ih (name :: opened) (i :: place) (values name value found))

end Places

namespace Context

def captured? (ctx : Context) (inner : List Char) : Option (List Char) :=
  (Reference.ofInner? inner).bind ctx.store.lookup?

def generated? (ctx : Context) (inner : List Char) : Option (List Char) :=
  (generatorCall? inner).bind fun (name, arguments) => (ctx.generate name arguments).map String.toList

/-- The value of the variable that the inside of a group names, resolved if it has placeholders. -/
def bound? (ctx : Context) (deeper : Nat) (opened : List String) (inner : List Char) :
    Option (List Char) :=
  (variableName? inner).bind fun name =>
    (ctx.scope.get? name).bind fun value =>
      if !hasOpening value.toList then some value.toList
      else if opened.contains name then none
      else match deeper with
        | 0 => none
        | deeper + 1 => some (ctx.resolveWithin deeper (name :: opened) value.toList)

def placed? (ctx : Context) (deeper : Nat) (opened : List String) (inner : List Char) :
    Option (List Char) :=
  ((ctx.captured? inner).or (ctx.generated? inner)).or (ctx.bound? deeper opened inner)

theorem resolveAll_eq (ctx : Context) (text : List Char) :
    ctx.store.resolveAll text = replaceGroups ctx.captured? text := by
  refine List.flatMap_congr fun piece _ => ?_
  cases piece with
  | char c => rfl
  | group inner =>
    cases referred : Reference.ofInner? inner with
    | none => simp [Piece.replace, captured?, referred]
    | some r => cases found : ctx.store.lookup? r <;> simp [Piece.replace, captured?, referred, found]

/-- Where the same values are generated at every place, all places are alike. -/
theorem resolveAt_fixed (ctx : Context) (deeper : Nat) (opened : List String) (place : Place)
    (text : List Char) :
    resolveAt ctx.scope ctx.store ctx.generate deeper opened place text = ctx.resolveWithin deeper opened text := by
  induction deeper generalizing opened place text with
  | zero =>
    rw [resolveWithin, resolveAt_eq, resolveAt_eq]
    rfl
  | succ deeper ih =>
    rw [resolveWithin, resolveAt_eq, resolveAt_eq]
    refine replaceGroupsAt_congr fun i inner _ => variableValue?_congr fun name value _ => ?_
    exact congrArg some ((ih _ _ _).trans (ih _ _ _).symm)

theorem resolveText_fixed (ctx : Context) (depth : Nat) (place : Place) (text : String) :
    resolveText ctx.scope ctx.store ctx.generate depth place text = ctx.resolve depth text :=
  congrArg String.ofList (ctx.resolveAt_fixed (depth - 1) [] place text.toList)

-- With random bits of its own for every place, each of two placeholders has its own value.
example : resolveText .empty .empty
    (.ofSources fun place => ⟨⟨⟨0, 0⟩, .universal⟩, fun _ => none, place.headD 0⟩) 10 [] "{{$guid}} {{$guid}}" =
      "00000000-0000-4000-8000-000000000000 00000000-0000-4000-a000-000000000000" := by decide +kernel

theorem resolveWithin_eq (ctx : Context) (deeper : Nat) (opened : List String) (text : List Char) :
    ctx.resolveWithin deeper opened text =
      replaceGroups (ctx.bound? deeper opened)
        (replaceGroups ctx.generated? (replaceGroups ctx.captured? text)) := by
  have opens (i : Nat) : variableValue? ctx.scope opened
      (openedValue? ctx.scope ctx.store ctx.generate deeper opened [i]) = ctx.bound? deeper opened := by
    funext inner
    cases deeper with
    | zero => rfl
    | succ deeper => simp only [variableValue?, openedValue?, bound?, resolveAt_fixed]
  rw [resolveWithin, resolveAt_eq, ← resolveAll_eq]
  simp only [opens]
  rw [replaceGroupsAt_const]
  exact congrArg _ (replaceGroupsAt_const ctx.generated? _)

/-- Nothing that is captured or generated for the groups of a text holds braces. -/
def Plain (ctx : Context) (text : List Char) : Prop :=
  ∀ inner, .group inner ∈ pieces text →
    ∀ new, (ctx.captured? inner).or (ctx.generated? inner) = some new → Braceless new

/-- A tidy text is resolved group by group: captured values go before generated ones, and these
before variables. -/
theorem resolveWithin_tidy {ctx : Context} {text : List Char} (tidy : Tidy text)
    (plain : ctx.Plain text) (deeper : Nat) (opened : List String) :
    ctx.resolveWithin deeper opened text = replaceGroups (ctx.placed? deeper opened) text := by
  have captured : ∀ inner, .group inner ∈ pieces text →
      ∀ new, ctx.captured? inner = some new → Braceless new := by
    intro inner member new found
    exact plain inner member new (by rw [found, Option.some_or])
  rw [resolveWithin_eq, replaceGroups_replaceGroups tidy ctx.generated? captured]
  exact replaceGroups_replaceGroups tidy _ plain

end Context

end RequestBook
