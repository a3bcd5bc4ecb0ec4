import RequestBook.Markup.Query
import RequestBook.Proofs.JsonPath

/-! Written queries. A list of steps is written with one or two slashes before each of them and with
predicates in brackets. A query is cut into steps before its quotes are read, so brackets in a quoted value
count as brackets of the query: the steps are read back as they were exactly when no slash of a value is
outside brackets and no bracket of a value stays open ahead of another step. -/
namespace RequestBook

namespace Text

theorem dropEnd?_eq_some {stop text front : List Char} :
    dropEnd? stop text = some front ↔ text = front ++ stop := by
  rw [dropEnd?, Option.map_eq_some_iff]
  constructor
  · rintro ⟨reversed, found, rfl⟩
    have whole := congrArg List.reverse (dropStart?_eq_some.mp found)
    simpa using whole
  · rintro rfl
    exact ⟨front.reverse, by rw [List.reverse_append, dropStart?_append], List.reverse_reverse front⟩

/-- What stands ahead of another character does not matter to the end of a text. -/
theorem dropEnd?_append {c : Char} {front : List Char} (other : ∀ d ∈ front.getLast?, d ≠ c)
    (text : List Char) : dropEnd? [c] (front ++ text) = (dropEnd? [c] text).map (front ++ ·) := by
  ext inside
  simp only [Option.map_eq_some_iff, dropEnd?_eq_some]
  constructor
  · intro whole
    rcases List.eq_nil_or_concat text with rfl | ⟨inner, d, rfl⟩
    · rw [List.append_nil] at whole
      exact absurd rfl (other c (by simp [whole]))
    · rw [List.concat_eq_append, ← List.append_assoc] at whole
      obtain ⟨rfl, same⟩ := List.append_inj' whole rfl
      exact ⟨inner, by rw [List.concat_eq_append, same], rfl⟩
  · rintro ⟨inner, rfl, rfl⟩
    exact (List.append_assoc ..).symm

theorem trimEnd_trimEnd (text : List Char) : trimEnd (trimEnd text) = trimEnd text :=
  List.rdropWhile_idempotent isBlank text

/-- What trimming takes off the end of a text is blank. -/
theorem trimEnd_split (text : List Char) :
    ∃ blanks, trimEnd text ++ blanks = text ∧ allBlank blanks = true := by
  refine ⟨(text.reverse.takeWhile isBlank).reverse, ?_, ?_⟩
  · rw [trimEnd, ← List.reverse_append, List.takeWhile_append_dropWhile, List.reverse_reverse]
  · rw [allBlank, List.all_reverse]
    exact List.all_takeWhile

end Text

namespace Markup

open Text

def Plain (text : List Char) : Prop := '/' ∉ text ∧ '[' ∉ text ∧ ']' ∉ text

structure IsTest (test : List Char) : Prop where
  filled : test ≠ []
  trimmed : Trimmed test
  plain : Plain test
  unmarked : test.head? ≠ some '@'
  other : test ≠ "text()".toList

inductive WrittenFilter : Option Predicate → List Char → Prop where
  | none : WrittenFilter none []
  | position {n : Nat} : 1 ≤ n → n < unsignedLimit →
      WrittenFilter (some (.position n)) ('[' :: (natText n ++ [']']))
  | attributeEquals {name value : List Char} {quote : Char} : quote = '\'' ∨ quote = '"' → Trimmed name →
      Plain name → '=' ∉ name → quote ∉ value →
      WrittenFilter (some (.attributeEquals (String.ofList name) (String.ofList value)))
        ('[' :: '@' :: name ++ '=' :: quote :: value ++ [quote, ']'])

def Axis.slashes : Axis → List Char
  | .child => ['/']
  | .descendant => ['/', '/']

/-- How a list of steps is written. An attribute or a text comes last, behind one slash. -/
inductive WrittenQuery : List Step → List Char → Prop where
  | nil : WrittenQuery [] []
  | attributeEnd {name : List Char} : name ≠ [] → Trimmed name → Plain name →
      WrittenQuery [.attribute (String.ofList name)] ('/' :: '@' :: name)
  | textEnd : WrittenQuery [.text] "/text()".toList
  | element {axis : Axis} {test filter rest : List Char} {predicate : Option Predicate} {steps : List Step} :
      IsTest test → WrittenFilter predicate filter → WrittenQuery steps rest →
      WrittenQuery (.element axis (String.ofList test) predicate :: steps)
        (axis.slashes ++ (test ++ filter ++ rest))

def heldIn : Option Predicate → List Char
  | some (.attributeEquals _ value) => value.toList
  | _ => []

def Step.value : Step → List Char
  | .element _ _ predicate => heldIn predicate
  | _ => []

def nested (depth : Nat) (c : Char) : Nat :=
  if c = '[' then depth + 1 else if c = ']' then depth - 1 else depth

def depthAfter (depth : Nat) (text : List Char) : Nat := text.foldl nested depth

def Unsplit : Nat → List Char → Prop
  | _, [] => True
  | depth, c :: rest => ¬(c = '/' ∧ depth = 0) ∧ Unsplit (nested depth c) rest

/-- No slash of a value is outside brackets, and none of its brackets is open ahead of another step. A
value itself stands in the brackets of its predicate. -/
structure Separable (steps : List Step) : Prop where
  unsplit : ∀ step ∈ steps, Unsplit 1 step.value
  closed : ∀ step ∈ steps.dropLast, depthAfter 1 step.value ≤ 1

section Cutting

variable {depth : Nat} {text front rest : List Char}

instance decidableUnsplit : (depth : Nat) → (text : List Char) → Decidable (Unsplit depth text)
  | _, [] => .isTrue trivial
  | depth, c :: rest =>
    have := decidableUnsplit (nested depth c) rest
    inferInstanceAs (Decidable (¬(c = '/' ∧ depth = 0) ∧ Unsplit (nested depth c) rest))

theorem nested_of_plain {c : Char} (opens : c ≠ '[') (closes : c ≠ ']') : nested depth c = depth := by
  rw [nested, if_neg opens, if_neg closes]

theorem unsplit_append : Unsplit depth (front ++ rest) ↔
    Unsplit depth front ∧ Unsplit (depthAfter depth front) rest := by
  induction front generalizing depth with
  | nil => simp [Unsplit, depthAfter]
  | cons c front ih => rw [List.cons_append, Unsplit, Unsplit, ih, and_assoc]; rfl

theorem depthAfter_append : depthAfter depth (front ++ rest) = depthAfter (depthAfter depth front) rest :=
  List.foldl_append

theorem Plain.depthAfter (plain : Plain text) : depthAfter depth text = depth := by
  obtain ⟨-, opens, closes⟩ := plain
  induction text with
  | nil => rfl
  | cons c rest ih =>
    simp only [List.mem_cons, not_or] at opens closes
    have step : nested depth c = depth := nested_of_plain (Ne.symm opens.1) (Ne.symm closes.1)
    rw [Markup.depthAfter, List.foldl_cons, step]
    exact ih opens.2 closes.2

theorem unsplit_of_unslashed (unslashed : '/' ∉ text) : Unsplit depth text := by
  induction text generalizing depth with
  | nil => trivial
  | cons c rest ih =>
    simp only [List.mem_cons, not_or] at unslashed
    exact ⟨fun slash => unslashed.1 slash.1.symm, ih unslashed.2⟩

theorem cutStep_cons {c : Char} (inside : ¬(c = '/' ∧ depth = 0)) :
    cutStep depth (c :: rest) =
      (c :: (cutStep (nested depth c) rest).1, (cutStep (nested depth c) rest).2) := by
  rw [cutStep, if_neg inside]
  rfl

/-- In brackets among text without slashes and brackets, only a value can hold slashes or leave brackets
open. -/
theorem unsplit_bracketed (value : List Char) {stop : List Char} (plain : Plain front) (plain' : Plain stop) :
    let bracketed := '[' :: (front ++ (value ++ (stop ++ [']'])))
    (Unsplit 0 bracketed ↔ Unsplit 1 value) ∧ depthAfter 0 bracketed = depthAfter 1 value - 1 := by
  intro bracketed
  have unslashed : '/' ∉ stop ++ [']'] := by simp [plain'.1]
  have inside : depthAfter 0 bracketed = depthAfter 1 (front ++ (value ++ (stop ++ [']']))) := rfl
  constructor
  · have open' : Unsplit 0 bracketed ↔ Unsplit 1 (front ++ (value ++ (stop ++ [']']))) := by
      simp [bracketed, Unsplit, nested]
    rw [open', unsplit_append, unsplit_append, plain.depthAfter]
    simp [unsplit_of_unslashed plain.1, unsplit_of_unslashed unslashed]
  · rw [inside, depthAfter_append, depthAfter_append, depthAfter_append, plain.depthAfter, plain'.depthAfter]
    rfl

theorem cutStep_whole (depth : Nat) (text : List Char) :
    (cutStep depth text).1 ++ (cutStep depth text).2 = text := by
  induction text generalizing depth with
  | nil => rfl
  | cons c rest ih =>
    by_cases outside : c = '/' ∧ depth = 0
    · simp [cutStep, outside]
    · rw [cutStep_cons outside, List.cons_append, ih]

/-- A text without slashes outside brackets belongs to the step that it begins. -/
theorem cutStep_append (unsplit : Unsplit depth front) (rest : List Char) :
    cutStep depth (front ++ rest) =
      (front ++ (cutStep (depthAfter depth front) rest).1, (cutStep (depthAfter depth front) rest).2) := by
  induction front generalizing depth with
  | nil => rfl
  | cons c front ih => rw [List.cons_append, cutStep_cons unsplit.1, ih unsplit.2]; rfl

/-- A step is cut off at a slash exactly when no slash of its own is outside brackets and none of its
brackets is open at its end. -/
theorem cutStep_eq_iff (next : ∀ c ∈ rest.head?, c = '/') : cutStep depth (front ++ rest) = (front, rest) ↔
    Unsplit depth front ∧ (rest ≠ [] → depthAfter depth front = 0) := by
  induction front generalizing depth with
  | nil =>
    cases rest with
    | nil => simp [cutStep, Unsplit]
    | cons c rest =>
      obtain rfl := next c rfl
      by_cases outside : depth = 0 <;> simp [cutStep, Unsplit, depthAfter, outside]
  | cons c front ih =>
    by_cases slash : c = '/' ∧ depth = 0
    · simp [cutStep, Unsplit, slash]
    · have behind : depthAfter depth (c :: front) = depthAfter (nested depth c) front := rfl
      rw [List.cons_append, cutStep_cons slash, Unsplit, and_assoc, behind, ← ih]
      simp [slash, Prod.ext_iff]

end Cutting

section Reading

variable {axis : Axis} {test name value inside raw rest filter : List Char} {quote : Char}
  {predicate : Option Predicate} {steps : List Step}

theorem elementStep?_bare (isTest : IsTest test) :
    elementStep? axis test = some (.element axis (String.ofList test) none) := by
  have unopened : cutAt? '[' test = none := by
    cases cut : cutAt? '[' test with
    | none => rfl
    | some parts => exact absurd (by simp [eq_of_cutAt? cut]) isTest.plain.2.1
  simp [elementStep?, unopened, isTest.trimmed.trim_eq, isTest.filled]

/-- What stands in brackets behind a name is read as a predicate. -/
theorem elementStep?_bracket (isTest : IsTest test) (rest : List Char) :
    elementStep? axis (test ++ '[' :: rest) = (dropEnd? [']'] rest).bind fun inside =>
      (predicate? (trim inside)).map fun predicate =>
        .element axis (String.ofList test) (some predicate) := by
  rw [elementStep?, cutAt?_append isTest.plain.2.1]
  cases closed : dropEnd? [']'] rest with
  | none => simp [closed]
  | some inside =>
    cases found : predicate? (trim inside) <;> simp [closed, found, isTest.trimmed.trim_eq, isTest.filled]

theorem predicate?_natText {n : Nat} (filled : 1 ≤ n) (below : n < unsignedLimit) :
    predicate? (natText n) = some (.position n) := by
  obtain ⟨c, digits, shown, digit, -⟩ := natText_eq_cons n
  have unmarked : ∀ rest, natText n ≠ '@' :: rest := by
    intro rest same
    rw [shown] at same
    rw [(List.cons.inj same).1] at digit
    cases digit
  unfold predicate?
  split
  next rest same => exact absurd same (unmarked rest)
  next => simp [readNat?_natText below, filled]

theorem predicate?_attribute (quoted : quote = '\'' ∨ quote = '"') (trimmed : Trimmed name)
    (unequal : '=' ∉ name) (rest : List Char) :
    predicate? ('@' :: (name ++ '=' :: quote :: trimEnd rest)) =
      (dropEnd? [quote] (trimEnd rest)).map fun value =>
        .attributeEquals (String.ofList name) (String.ofList value) := by
  have visible : isBlank quote = false := by
    rcases quoted with rfl | rfl <;> rfl
  have value : trim (quote :: trimEnd rest) = quote :: trimEnd rest := by
    have single : Trimmed [quote] := by simp [Trimmed, visible]
    rw [← List.singleton_append, single.trim_append (by simp), trimEnd_trimEnd]
  have matching : (unquote? '\'' (quote :: trimEnd rest)).or (unquote? '"' (quote :: trimEnd rest)) =
      dropEnd? [quote] (trimEnd rest) := by
    rcases quoted with rfl | rfl <;> simp [unquote?, dropStart?]
  rw [predicate?, cutAt?_append unequal]
  simp only [Option.bind_eq_bind, Option.bind_some, value, matching, trimmed.trim_eq]
  cases dropEnd? [quote] (trimEnd rest) <;> rfl

theorem elementStep?_attribute (isTest : IsTest test) (quoted : quote = '\'' ∨ quote = '"')
    (trimmed : Trimmed name) (unequal : '=' ∉ name) (rest : List Char) :
    elementStep? axis (test ++ '[' :: '@' :: (name ++ '=' :: quote :: rest)) =
      (dropEnd? [']'] rest).bind fun inside => (dropEnd? [quote] (trimEnd inside)).map fun value =>
        .element axis (String.ofList test)
          (some (.attributeEquals (String.ofList name) (String.ofList value))) := by
  have open' : '@' :: (name ++ '=' :: quote :: rest) = ('@' :: (name ++ ['=', quote])) ++ rest := by simp
  have last : ('@' :: (name ++ ['=', quote])).getLast? = some quote := by
    rw [← List.cons_append, List.getLast?_append]
    rfl
  have visible : isBlank quote = false ∧ quote ≠ ']' := by
    rcases quoted with rfl | rfl <;> decide
  have front : Trimmed ('@' :: (name ++ ['=', quote])) := by
    refine ⟨fun c first => ?_, fun c closing => ?_⟩
    · cases first
      rfl
    · rw [last] at closing
      cases closing
      exact visible.1
  have unclosed : ∀ d ∈ ('@' :: (name ++ ['=', quote])).getLast?, d ≠ ']' := by
    intro d closing
    rw [last] at closing
    cases closing
    exact visible.2
  rw [elementStep?_bracket isTest, open', dropEnd?_append unclosed]
  cases dropEnd? [']'] rest with
  | none => rfl
  | some inside =>
    have shown : '@' :: (name ++ ['=', quote]) ++ trimEnd inside =
        '@' :: (name ++ '=' :: quote :: trimEnd inside) := by simp
    rw [Option.map_some, Option.bind_some, Option.bind_some, front.trim_append (by simp), shown,
      predicate?_attribute quoted trimmed unequal, Option.map_map]
    rfl

/-- A value ends where its quote and the bracket behind it were written, or it is read otherwise. -/
theorem elementStep?_attribute_iff (isTest : IsTest test) (quoted : quote = '\'' ∨ quote = '"')
    (trimmed : Trimmed name) (unequal : '=' ∉ name) {after : List Char}
    (whole : raw ++ after = value ++ quote :: ']' :: rest) :
    elementStep? axis (test ++ '[' :: '@' :: (name ++ '=' :: quote :: raw)) =
      some (.element axis (String.ofList test)
        (some (.attributeEquals (String.ofList name) (String.ofList value)))) ↔
    raw = value ++ [quote, ']'] := by
  have visible : ∀ c ∈ (value ++ [quote]).getLast?, isBlank c = false := by
    intro c last
    rw [List.getLast?_concat] at last
    cases last
    rcases quoted with rfl | rfl <;> rfl
  rw [elementStep?_attribute isTest quoted trimmed unequal, Option.bind_eq_some_iff]
  simp only [Option.map_eq_some_iff, dropEnd?_eq_some]
  constructor
  · rintro ⟨inside, rfl, found, closed, same⟩
    simp only [Step.element.injEq, Option.some.injEq, Predicate.attributeEquals.injEq, true_and,
      String.ofList_inj] at same
    obtain ⟨blanks, split, blank⟩ := trimEnd_split inside
    rw [same] at closed
    rw [closed] at split
    -- Behind the quote comes the bracket, which is no blank.
    have behind : blanks ++ ']' :: after = ']' :: rest := by
      rw [← split] at whole
      simpa using whole
    cases blanks with
    | nil => simp [← split]
    | cons c blanks =>
      obtain ⟨rfl, -⟩ := List.cons.inj behind
      cases (List.all_eq_true.mp blank) ']' (by simp)
  · rintro rfl
    exact ⟨value ++ [quote], by simp, value, trimEnd_of_getLast visible, rfl⟩

theorem WrittenFilter.elementStep? (written : WrittenFilter predicate filter) (isTest : IsTest test) :
    elementStep? axis (test ++ filter) = some (.element axis (String.ofList test) predicate) := by
  cases written with
  | none => rw [List.append_nil, elementStep?_bare isTest]
  | @position n filled below =>
    rw [elementStep?_bracket isTest, dropEnd?_eq_some.mpr rfl, Option.bind_some, trim_natText,
      predicate?_natText filled below]
    rfl
  | @attributeEquals name value quote quoted trimmed plain unequal unquoted =>
    rw [List.cons_append, List.cons_append, List.append_assoc]
    have whole : (value ++ [quote, ']']) ++ [] = value ++ quote :: ']' :: [] := List.append_nil _
    exact (elementStep?_attribute_iff isTest quoted trimmed unequal whole).mpr rfl

/-- Only the value of a predicate can hold slashes or leave brackets open. -/
theorem WrittenFilter.unsplit_iff (written : WrittenFilter predicate filter) :
    (Unsplit 0 filter ↔ Unsplit 1 (heldIn predicate)) ∧
      depthAfter 0 filter = depthAfter 1 (heldIn predicate) - 1 := by
  cases written with
  | none => exact ⟨Iff.rfl, rfl⟩
  | @position n _ _ =>
    have plain : Plain (natText n) := by
      refine ⟨fun member => ?_, fun member => ?_, fun member => ?_⟩ <;>
        cases isAsciiDigit_of_mem_natText member
    simpa [heldIn] using unsplit_bracketed [] plain (show Plain [] by simp [Plain])
  | @attributeEquals name value quote quoted _ plain _ _ =>
    have apart : Plain [quote] := by
      rcases quoted with rfl | rfl <;> simp [Plain]
    have front : Plain ('@' :: (name ++ ['=', quote])) := by
      simp only [Plain, List.mem_cons, List.mem_append, List.not_mem_nil, or_false, not_or] at *
      simp [plain, apart]
    simpa [heldIn] using unsplit_bracketed value front apart

end Reading

section Steps

variable {axis : Axis} {test more raw after text : List Char} {step : Step} {steps : List Step}

theorem separable_nil : Separable [] :=
  ⟨fun _ among => absurd among List.not_mem_nil, fun _ among => absurd among List.not_mem_nil⟩

theorem separable_cons : Separable (step :: steps) ↔
    (Unsplit 1 step.value ∧ (steps ≠ [] → depthAfter 1 step.value ≤ 1)) ∧ Separable steps := by
  constructor
  · rintro ⟨unsplit, closed⟩
    obtain ⟨first, others⟩ := List.forall_mem_cons.mp unsplit
    refine ⟨⟨first, fun further => closed step ?_⟩, others, fun later among => closed later ?_⟩
    · rw [List.dropLast_cons_of_ne_nil further]
      exact List.mem_cons_self
    · rw [List.dropLast_cons_of_ne_nil (by rintro rfl; cases among)]
      exact List.mem_cons_of_mem _ among
  · rintro ⟨⟨unsplit, closed⟩, others⟩
    refine ⟨List.forall_mem_cons.mpr ⟨unsplit, others.unsplit⟩, fun later among => ?_⟩
    cases steps with
    | nil => cases among
    | cons next steps =>
      rcases List.mem_cons.mp among with rfl | among
      · exact closed (List.cons_ne_nil _ _)
      · exact others.closed later among

theorem WrittenQuery.head? (written : WrittenQuery steps text) : ∀ c ∈ text.head?, c = '/' := by
  intro c first
  cases written with
  | nil => cases first
  | attributeEnd => exact (Option.some.inj first).symm
  | textEnd => exact (Option.some.inj first).symm
  | @element axis => cases axis <;> exact (Option.some.inj first).symm

theorem WrittenQuery.eq_nil_iff (written : WrittenQuery steps text) : text = [] ↔ steps = [] := by
  cases written with
  | nil => simp
  | attributeEnd => simp
  | textEnd => simp
  | @element axis => cases axis <;> simp [Axis.slashes]

theorem WrittenFilter.getLast? {predicate : Option Predicate} {filter : List Char} (isTest : IsTest test)
    (written : WrittenFilter predicate filter) : ∀ c ∈ (test ++ filter).getLast?, isBlank c = false := by
  intro c last
  cases written with
  | none =>
    rw [List.append_nil] at last
    exact isTest.trimmed.2 c last
  | position =>
    simp [List.getLast?_append, List.getLast?_cons] at last
    rw [← last]
    rfl
  | attributeEquals =>
    simp [List.getLast?_append, List.getLast?_cons] at last
    rw [← last]
    rfl

theorem WrittenQuery.trimmed (written : WrittenQuery steps text) : Trimmed text := by
  refine ⟨fun c first => ?_, ?_⟩
  · rw [written.head? c first]
    rfl
  · induction written with
    | nil => simp
    | @attributeEnd name filled trimmed plain =>
      rw [← List.singleton_append, ← List.singleton_append (l := name), ← List.append_assoc,
        List.getLast?_append_of_ne_nil _ filled]
      exact trimmed.2
    | textEnd =>
      intro c last
      rw [← Option.some.inj last]
      rfl
    | @element axis test filter rest _ _ isTest filtered _ ih =>
      cases rest with
      | nil =>
        rw [List.append_nil, List.getLast?_append_of_ne_nil _ (by simp [isTest.filled])]
        exact filtered.getLast? isTest
      | cons c rest =>
        rw [← List.append_assoc, List.getLast?_append_of_ne_nil _ (List.cons_ne_nil c rest)]
        exact ih

/-- A step that begins with a name is cut off and read. -/
theorem readSteps_element (isTest : IsTest test) (cut : cutStep 0 (test ++ more) = (test ++ raw, after))
    (other : test ++ raw ≠ "text()".toList) : readSteps (axis.slashes ++ (test ++ more)) =
      (elementStep? axis (test ++ raw)).bind fun step => (readSteps after).map (step :: ·) := by
  cases test with
  | nil => exact absurd rfl isTest.filled
  | cons c test =>
    have unmarked : ∀ rest, c :: test ++ raw ≠ '@' :: rest :=
      fun rest same => isTest.unmarked (congrArg List.head? same)
    have slash : ∀ rest, c :: test ++ more ≠ '/' :: rest := by
      intro rest same
      exact isTest.plain.1 (by simp [(List.cons.inj same).1])
    have onward (step : Option Step) (further : Option (List Step)) :
        (do return (← step) :: (← further)) = step.bind fun step => further.map (step :: ·) := by
      cases step <;> cases further <;> rfl
    cases axis with
    | child =>
      rw [Axis.slashes, List.singleton_append, readSteps, cut]
      · simp only
        rw [if_neg other]
        exact onward _ _
      · exact slash
    | descendant =>
      rw [Axis.slashes, List.cons_append, List.singleton_append, readSteps, cut]
      simp only
      rw [if_neg other]
      exact onward _ _

theorem ne_text_of_bracket (test rest : List Char) : test ++ '[' :: rest ≠ "text()".toList := by
  intro same
  have member : '[' ∈ "text()".toList := by simp [← same]
  revert member
  decide

theorem cutStep_filter_iff {predicate : Option Predicate} {filter rest : List Char} (isTest : IsTest test)
    (written : WrittenFilter predicate filter) (next : ∀ c ∈ rest.head?, c = '/') :
    cutStep 0 (test ++ filter ++ rest) = (test ++ filter, rest) ↔
      Unsplit 1 (heldIn predicate) ∧ (rest ≠ [] → depthAfter 1 (heldIn predicate) ≤ 1) := by
  rw [cutStep_eq_iff next, unsplit_append, depthAfter_append, isTest.plain.depthAfter,
    written.unsplit_iff.1, written.unsplit_iff.2, Nat.sub_eq_zero_iff_le]
  simp [unsplit_of_unslashed isTest.plain.1]

/-- Up to its value a predicate with an attribute is cut off and read in any case. So the step is read as
written only if the cut behind the value is where the value was written to end. -/
theorem cutStep_of_readSteps {name value rest : List Char} {quote : Char} (isTest : IsTest test)
    (quoted : quote = '\'' ∨ quote = '"') (trimmed : Trimmed name) (plain : Plain name) (unequal : '=' ∉ name)
    (read : readSteps (axis.slashes ++
        (test ++ ('[' :: '@' :: name ++ '=' :: quote :: value ++ [quote, ']']) ++ rest)) =
      some (.element axis (String.ofList test)
        (some (.attributeEquals (String.ofList name) (String.ofList value))) :: steps)) :
    cutStep 0 (test ++ ('[' :: '@' :: name ++ '=' :: quote :: value ++ [quote, ']']) ++ rest) =
      (test ++ ('[' :: '@' :: name ++ '=' :: quote :: value ++ [quote, ']']), rest) := by
  let front := '[' :: '@' :: (name ++ ['=', quote])
  let tail := value ++ quote :: ']' :: rest
  have whole : test ++ ('[' :: '@' :: name ++ '=' :: quote :: value ++ [quote, ']']) ++ rest =
      test ++ (front ++ tail) := by simp [front, tail]
  have unslashed : '/' ∉ test ++ front := by
    have apart : '/' ≠ quote := by
      rcases quoted with rfl | rfl <;> decide
    simp [front, isTest.plain.1, plain.1, apart]
  obtain ⟨raw, after, shown⟩ : ∃ raw after, cutStep (depthAfter 0 (test ++ front)) tail = (raw, after) :=
    ⟨_, _, rfl⟩
  have parts : raw ++ after = tail := by
    have kept := cutStep_whole (depthAfter 0 (test ++ front)) tail
    rwa [shown] at kept
  have cut : cutStep 0 (test ++ (front ++ tail)) = (test ++ (front ++ raw), after) := by
    rw [← List.append_assoc, cutStep_append (unsplit_of_unslashed unslashed), shown, List.append_assoc]
  rw [whole] at read ⊢
  rw [readSteps_element isTest cut (ne_text_of_bracket _ _), Option.bind_eq_some_iff] at read
  obtain ⟨step, element, further⟩ := read
  obtain ⟨steps', -, same⟩ := Option.map_eq_some_iff.mp further
  cases same
  have inside : front ++ raw = '[' :: '@' :: (name ++ '=' :: quote :: raw) := by simp [front]
  rw [inside] at element
  obtain rfl := (elementStep?_attribute_iff isTest quoted trimmed unequal parts).mp element
  obtain rfl : after = rest := by simpa [tail] using parts
  rw [cut]
  simp [front]

/-- An element step is read as written exactly when it is cut off where it was written to end. -/
theorem readSteps_element_iff {predicate : Option Predicate} {filter rest : List Char} (isTest : IsTest test)
    (written : WrittenFilter predicate filter) (next : ∀ c ∈ rest.head?, c = '/') :
    readSteps (axis.slashes ++ (test ++ filter ++ rest)) =
      some (.element axis (String.ofList test) predicate :: steps) ↔
    cutStep 0 (test ++ filter ++ rest) = (test ++ filter, rest) ∧ readSteps rest = some steps := by
  have other : test ++ filter ≠ "text()".toList := by
    cases written with
    | none => simpa using isTest.other
    | position => exact ne_text_of_bracket _ _
    | attributeEquals => exact ne_text_of_bracket _ _
  have read (cut : cutStep 0 (test ++ filter ++ rest) = (test ++ filter, rest)) :
      readSteps (axis.slashes ++ (test ++ filter ++ rest)) =
        some (.element axis (String.ofList test) predicate :: steps) ↔ readSteps rest = some steps := by
    rw [List.append_assoc] at cut ⊢
    rw [readSteps_element isTest cut other, written.elementStep? isTest, Option.bind_some]
    simp
  constructor
  · intro found
    have cut : cutStep 0 (test ++ filter ++ rest) = (test ++ filter, rest) := by
      cases written with
      | none => exact (cutStep_filter_iff isTest .none next).mpr ⟨trivial, fun _ => le_rfl⟩
      | position filled below =>
        exact (cutStep_filter_iff isTest (.position filled below) next).mpr ⟨trivial, fun _ => le_rfl⟩
      | attributeEquals quoted trimmed plain unequal unquoted =>
        exact cutStep_of_readSteps isTest quoted trimmed plain unequal found
    exact ⟨cut, (read cut).mp found⟩
  · rintro ⟨cut, further⟩
    exact (read cut).mpr further

theorem readSteps_eq_some_iff (written : WrittenQuery steps text) :
    readSteps text = some steps ↔ Separable steps := by
  induction written with
  | nil => simp [readSteps, separable_nil]
  | @attributeEnd name filled trimmed plain =>
    have cut : cutStep 0 ('@' :: name) = ('@' :: name, []) := by
      have whole : cutStep 0 ('@' :: name ++ []) = ('@' :: name, []) := (cutStep_eq_iff (by simp)).mpr
        ⟨unsplit_of_unslashed (by simp [plain.1]), fun further => absurd rfl further⟩
      rwa [List.append_nil] at whole
    have last : Separable [.attribute (String.ofList name)] :=
      separable_cons.mpr ⟨⟨trivial, fun _ => le_rfl⟩, separable_nil⟩
    rw [readSteps, cut]
    · simp [filled, last]
    · simp
  | textEnd =>
    have last : Separable [.text] := separable_cons.mpr ⟨⟨trivial, fun _ => le_rfl⟩, separable_nil⟩
    exact iff_of_true (by decide +kernel) last
  | @element axis test filter rest predicate steps isTest filtered written ih =>
    rw [readSteps_element_iff isTest filtered written.head?, cutStep_filter_iff isTest filtered written.head?, ih,
      separable_cons, ne_eq, written.eq_nil_iff]
    rfl

end Steps

/-- A written query gives back its steps exactly when they are separable: no slash of a value is outside
brackets, and no bracket of a value is open ahead of another step. -/
theorem query?_written_iff {steps : List Step} {path : List Char} (filled : steps ≠ [])
    (written : WrittenQuery steps path) : query? path = some steps ↔ Separable steps := by
  rw [query?, written.trimmed.trim_eq, ← readSteps_eq_some_iff written]
  split
  next none =>
    rw [none]
    simp [filled.symm]
  next => rfl

section Letters

variable {a x : Char}

theorem isTest_letter (letter : isAsciiLetter a = true) : IsTest [a] where
  filled := List.cons_ne_nil _ _
  trimmed := trimmed_of_inked (by simpa [Inked] using isBlank_of_letter letter)
  plain := by
    refine ⟨?_, ?_, ?_⟩ <;> (rw [List.mem_singleton]; rintro rfl; cases letter)
  unmarked := by
    rintro first
    cases first
    cases letter
  other := by simp

/-- An attribute and an element with names of one letter each. -/
theorem writtenFilter_letter (letter : isAsciiLetter x = true) (value : List Char) (unquoted : '\'' ∉ value) :
    WrittenFilter (some (.attributeEquals (String.ofList [x]) (String.ofList value)))
      ('[' :: '@' :: [x] ++ '=' :: '\'' :: value ++ ['\'', ']']) := by
  have test := isTest_letter letter
  refine .attributeEquals (.inl rfl) test.trimmed test.plain ?_ unquoted
  rw [List.mem_singleton]
  rintro rfl
  cases letter

end Letters

/-- A value may hold slashes, brackets, equals signs and the other quote. -/
theorem query?_written_bracketed :
    let steps := [.element .descendant "a" (some (.attributeEquals "x" "p/\"[=/]")),
      .element .child "b" (some (.position 2)), .attribute "k"]
    let path := "//a[@x='p/\"[=/]']/b[2]/@k".toList
    steps ≠ [] ∧ WrittenQuery steps path ∧ Separable steps ∧ query? path = some steps := by
  intro steps path
  have filled : steps ≠ [] := List.cons_ne_nil _ _
  have last : WrittenQuery [.attribute "k"] "/@k".toList :=
    @WrittenQuery.attributeEnd ['k'] (by simp) (by decide) (by simp [Plain])
  have counted : WrittenQuery [.element .child "b" (some (.position 2)), .attribute "k"] "/b[2]/@k".toList :=
    .element (isTest_letter (a := 'b') (by decide)) (.position (by decide) (by decide)) last
  have written : WrittenQuery steps path :=
    .element (isTest_letter (a := 'a') (by decide))
      (writtenFilter_letter (x := 'x') (by decide) "p/\"[=/]".toList (by decide)) counted
  have separable : Separable steps := ⟨by decide, by decide⟩
  exact ⟨filled, written, separable, (query?_written_iff filled written).mpr separable⟩

/-- A bracket in a value ends the predicate for the slash behind it, and one that is open takes in the next
step. -/
theorem not_query?_written :
    let split := [.element .child "a" (some (.attributeEquals "x" "p]/q"))]
    let joined := [.element .child "a" (some (.attributeEquals "x" "[")),
      .element .child "b" (some (.attributeEquals "y" "c"))]
    (WrittenQuery split "/a[@x='p]/q']".toList ∧ query? "/a[@x='p]/q']".toList = none ∧
      extract? "<a x='p]/q'>v</a>".toList "/a[@x='p]/q']".toList = none) ∧
    WrittenQuery joined "/a[@x='[']/b[@y='c']".toList ∧ query? "/a[@x='[']/b[@y='c']".toList =
      some [.element .child "a" (some (.attributeEquals "x" "[']/b[@y='c"))] := by
  have a : IsTest ['a'] := isTest_letter (by decide)
  have b : IsTest ['b'] := isTest_letter (by decide)
  have x (value : List Char) (unquoted : '\'' ∉ value) :=
    writtenFilter_letter (x := 'x') (by decide) value unquoted
  have y := writtenFilter_letter (x := 'y') (by decide) ['c'] (by decide)
  refine ⟨⟨.element a (x "p]/q".toList (by decide)) .nil, by decide +kernel, by decide +kernel⟩,
    .element a (x ['['] (by decide)) (.element b y .nil), by decide +kernel⟩

end Markup

end RequestBook
