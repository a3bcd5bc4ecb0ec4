import Mathlib.Data.Finset.Card
import Mathlib.Data.List.Induction
import RequestBook.Proofs.ElementPlaces

/-! What a query selects. An element step leads from each selected element to those of its children
or descendants whose names pass the test and which meet the predicate, and a query finds a text of a
selected element; it finds none only where nothing is selected or the attribute is nowhere. -/
namespace RequestBook.Markup

/-- An element step. Positions are counted from one. -/
structure Move where
  axis : Axis
  test : String
  predicate : Option Predicate
  counted : ∀ n, predicate = some (.position n) → 1 ≤ n

inductive Ending where
  | content
  /-- the value of an attribute -/
  | valueOf (name : String)
  | ownText

def Ending.steps : Ending → List Step
  | .content => []
  | .valueOf name => [.attribute name]
  | .ownText => [.text]

def Ending.text? : Ending → Element → Option (List Char)
  | .content, e => some e.textContent
  | .valueOf name, e => (e.tag.attribute? name).map String.toList
  | .ownText, e => some e.ownText

namespace Move

def step (m : Move) : Step := .element m.axis m.test m.predicate

/-- A way down from an element to another whose name passes the test. -/
def Candidate (m : Move) (c : Element) (way : Place) : Prop :=
  m.axis.Leads way ∧ ∃ e, c.at? way = some e ∧ passes m.test e.tag.name

/-- What the predicate asks of a candidate. -/
inductive Meets (m : Move) (c : Element) (way : Place) : Prop where
  | free : m.predicate = none → Meets m c way
  | carries {name value : String} {e : Element} :
      m.predicate = some (.attributeEquals name value) → c.at? way = some e →
      e.tag.attribute? name = some value → Meets m c way
  /-- the candidates that come earlier in document order are one less than the number -/
  | numbered {n : Nat} {earlier : Finset Place} : m.predicate = some (.position n) →
      (∀ other, other ∈ earlier ↔ m.Candidate c other ∧ other < way) → earlier.card + 1 = n →
      Meets m c way

end Move

/-- The places that moves select in a document, one move after the other. Two elements of a document
can be equal, so it is places that are selected. -/
inductive Selected (document : Element) : List Move → Place → Prop where
  | start : Selected document [] []
  | move {moves : List Move} {m : Move} {origin way : Place} {c : Element} :
      Selected document moves origin → document.at? origin = some c →
      m.Candidate c way → m.Meets c way → Selected document (moves ++ [m]) (origin ++ way)

/-- A member of an ordered list stands behind as many others as are smaller. -/
theorem getElem?_eq_some_iff_of_ordered {l : List Place} (ordered : l.Pairwise (· < ·)) {i : Nat}
    {way : Place} : l[i]? = some way ↔ way ∈ l ∧ (l.filter (· < way)).length = i := by
  have smaller {i : Nat} (stands : l[i]? = some way) : (l.filter (· < way)).length = i := by
    induction l generalizing i with
    | nil => cases stands
    | cons first rest ih =>
      obtain ⟨before, later⟩ := List.pairwise_cons.mp ordered
      cases i with
      | zero =>
        cases stands
        have nothing : rest.filter (· < way) = [] :=
          List.filter_eq_nil_iff.mpr fun other member less =>
            List.lt_asymm (before other member) (of_decide_eq_true less)
        simp [nothing]
      | succ i =>
        have less := before way (List.mem_of_getElem? stands)
        rw [List.filter_cons_of_pos (by simpa using less), List.length_cons, ih later stands]
  constructor
  · intro stands
    exact ⟨List.mem_of_getElem? stands, smaller stands⟩
  · rintro ⟨member, rank⟩
    obtain ⟨j, stands⟩ := List.mem_iff_getElem?.mp member
    rw [← rank, smaller stands, stands]

namespace Move

variable {m : Move} {c x : Element} {way : Place}

def matching (m : Move) (c : Element) : List Element :=
  (m.axis.candidates c).filter fun e => passes m.test e.tag.name

def ways (m : Move) (c : Element) : List Place :=
  (m.axis.ways c).filter fun way => (c.at? way).any fun e => passes m.test e.tag.name

def select (m : Move) (c : Element) : List Element := selectFrom m.axis m.test m.predicate c

theorem map_at?_ways (m : Move) (c : Element) : (m.ways c).map c.at? = (m.matching c).map some := by
  let passing : Option Element → Bool := fun found => found.any fun e => passes m.test e.tag.name
  calc (m.ways c).map c.at?
      = ((m.axis.ways c).map c.at?).filter passing := by rw [List.filter_map]; rfl
    _ = ((m.axis.candidates c).map some).filter passing := by rw [Axis.map_at?_ways]
    _ = (m.matching c).map some := List.filter_map

theorem ways_ordered (m : Move) (c : Element) : (m.ways c).Pairwise (· < ·) :=
  (m.axis.ways_ordered c).filter _

theorem mem_ways : way ∈ m.ways c ↔ m.Candidate c way := by
  rw [ways, List.mem_filter, Axis.mem_ways, Candidate, and_assoc, and_congr_right_iff]
  intro _
  cases c.at? way <;> simp

theorem mem_matching : x ∈ m.matching c ↔ ∃ way, m.Candidate c way ∧ c.at? way = some x := by
  calc x ∈ m.matching c
      ↔ some x ∈ (m.ways c).map c.at? := by
        rw [map_at?_ways, List.mem_map_of_injective (Option.some_injective _)]
    _ ↔ ∃ way, m.Candidate c way ∧ c.at? way = some x := by
        simp only [List.mem_map, mem_ways]

theorem getElem?_matching {i : Nat} :
    (m.matching c)[i]? = some x ↔ ∃ way, (m.ways c)[i]? = some way ∧ c.at? way = some x := by
  calc (m.matching c)[i]? = some x
      ↔ ((m.ways c).map c.at?)[i]? = some (some x) := by
        rw [map_at?_ways, List.getElem?_map]
        simp
    _ ↔ ∃ way, (m.ways c)[i]? = some way ∧ c.at? way = some x := by
        rw [List.getElem?_map, Option.map_eq_some_iff]

/-- The way at an index is a candidate with as many candidates before it. -/
theorem getElem?_ways {i : Nat} : (m.ways c)[i]? = some way ↔ m.Candidate c way ∧
    ∃ earlier : Finset Place, (∀ other, other ∈ earlier ↔ m.Candidate c other ∧ other < way) ∧
      earlier.card = i := by
  have distinct : ((m.ways c).filter (· < way)).Nodup :=
    (m.ways_ordered c).nodup.filter _
  have before (other : Place) :
      other ∈ ((m.ways c).filter (· < way)).toFinset ↔ m.Candidate c other ∧ other < way := by
    simp [mem_ways]
  rw [getElem?_eq_some_iff_of_ordered (m.ways_ordered c), mem_ways, ← List.toFinset_card_of_nodup distinct]
  refine and_congr_right fun _ => ⟨fun count => ⟨_, before, count⟩, ?_⟩
  rintro ⟨earlier, members, count⟩
  rw [← count]
  exact congrArg Finset.card (Finset.ext fun other => (before other).trans (members other).symm)

theorem meets_attribute_iff {name value : String}
    (asked : m.predicate = some (.attributeEquals name value)) (stands : c.at? way = some x) :
    m.Meets c way ↔ x.tag.attribute? name = some value := by
  constructor
  · intro meets
    cases meets with
    | free unasked => cases asked.symm.trans unasked
    | carries given reached equal =>
      cases asked.symm.trans given
      cases stands.symm.trans reached
      exact equal
    | numbered given => cases asked.symm.trans given
  · exact .carries asked stands

theorem meets_position_iff {n : Nat} (asked : m.predicate = some (.position n)) :
    m.Meets c way ↔ ∃ earlier : Finset Place,
      (∀ other, other ∈ earlier ↔ m.Candidate c other ∧ other < way) ∧ earlier.card + 1 = n := by
  constructor
  · intro meets
    cases meets with
    | free unasked => cases asked.symm.trans unasked
    | carries given => cases asked.symm.trans given
    | numbered given members count =>
      cases asked.symm.trans given
      exact ⟨_, members, count⟩
  · rintro ⟨earlier, members, count⟩
    exact .numbered asked members count

/-- A step selects from an element what its candidates that meet the predicate lead to. -/
theorem mem_select :
    x ∈ m.select c ↔ ∃ way, m.Candidate c way ∧ m.Meets c way ∧ c.at? way = some x := by
  unfold select selectFrom
  dsimp only
  split
  next unasked =>
    change x ∈ m.matching c ↔ _
    rw [mem_matching]
    exact exists_congr fun way => and_congr_right fun _ => (and_iff_right (.free unasked)).symm
  next p asked =>
    change x ∈ p.keep (m.matching c) ↔ _
    cases p with
    | attributeEquals name value =>
      rw [Predicate.keep, List.mem_filter, mem_matching, beq_iff_eq]
      constructor
      · rintro ⟨⟨way, candidate, stands⟩, equal⟩
        exact ⟨way, candidate, (meets_attribute_iff asked stands).mpr equal, stands⟩
      · rintro ⟨way, candidate, meets, stands⟩
        exact ⟨⟨way, candidate, stands⟩, (meets_attribute_iff asked stands).mp meets⟩
    | position n =>
      have index : ∀ count : Nat, count + 1 = n ↔ count = n - 1 := by
        have := m.counted n asked
        omega
      rw [Predicate.keep, List.take_one, List.head?_drop, Option.mem_toList, getElem?_matching]
      simp only [getElem?_ways, meets_position_iff asked, index, and_assoc]

end Move

/-- The elements that moves select from a context, in the order in which they are found. -/
def selection (context : List Element) (moves : List Move) : List Element :=
  moves.foldl (fun selected m => selected.flatMap m.select) context

/-- Nothing is selected from nothing, which is why evaluation may stop early. -/
theorem selection_nil (moves : List Move) : selection [] moves = [] := by
  induction moves with
  | nil => rfl
  | cons m moves ih => exact ih

section Run

variable {document x : Element} {moves : List Move} {m : Move} {place : Place}

theorem selected_append_iff : Selected document (moves ++ [m]) place ↔
    ∃ origin c way, place = origin ++ way ∧ Selected document moves origin ∧
      document.at? origin = some c ∧ m.Candidate c way ∧ m.Meets c way := by
  constructor
  · intro selected
    generalize all : moves ++ [m] = longer at selected
    cases selected with
    | start => cases moves <;> cases all
    | move before stands candidate meets =>
      obtain ⟨rfl, same⟩ := List.append_inj' all rfl
      cases same
      exact ⟨_, _, _, rfl, before, stands, candidate, meets⟩
  · rintro ⟨origin, c, way, rfl, before, stands, candidate, meets⟩
    exact .move before stands candidate meets

theorem selected_nil_iff : Selected document [] place ↔ place = [] := by
  constructor
  · intro selected
    generalize none : [] = moves at selected
    cases selected with
    | start => rfl
    | move => exact absurd none.symm (List.append_ne_nil_of_right_ne_nil _ (List.cons_ne_nil _ _))
  · rintro rfl
    exact .start

/-- Evaluation finds the elements at the selected places. Places may be found more than once. -/
theorem mem_selection : x ∈ selection [document] moves ↔
    ∃ place, Selected document moves place ∧ document.at? place = some x := by
  -- The relation grows at the end of the moves, so the last move is taken off.
  induction moves using List.reverseRecOn generalizing x with
  | nil =>
    simp [selection, selected_nil_iff, Element.at?, eq_comm]
  | append_singleton moves m ih =>
    rw [selection, List.foldl_append, List.foldl_cons, List.foldl_nil, List.mem_flatMap]
    constructor
    · rintro ⟨c, found, member⟩
      obtain ⟨origin, before, stands⟩ := ih.mp found
      obtain ⟨way, candidate, meets, reached⟩ := Move.mem_select.mp member
      refine ⟨origin ++ way, .move before stands candidate meets, ?_⟩
      rw [Element.at?_append, stands, Option.bind_some, reached]
    · rintro ⟨place, selected, reached⟩
      obtain ⟨origin, c, way, rfl, before, stands, candidate, meets⟩ := selected_append_iff.mp selected
      rw [Element.at?_append, stands, Option.bind_some] at reached
      exact ⟨c, ih.mpr ⟨origin, before, stands⟩, Move.mem_select.mpr ⟨way, candidate, meets, reached⟩⟩

theorem Selected.at?_isSome (selected : Selected document moves place) : (document.at? place).isSome := by
  cases selected with
  | start => rfl
  | move before stands candidate =>
    obtain ⟨-, e, reached, -⟩ := candidate
    rw [Element.at?_append, stands, Option.bind_some, reached]
    rfl

end Run

/-- The steps of a query are moves and an ending, and its text is the first that the ending has for a
selected element. -/
theorem select?_steps (context : List Element) (moves : List Move) (ending : Ending) :
    select? context (moves.map Move.step ++ ending.steps) =
      (selection context moves).findSome? ending.text? := by
  induction moves generalizing context with
  | nil =>
    cases ending with
    | content => cases context <;> rfl
    | valueOf name => exact List.map_findSome?
    | ownText => cases context <;> rfl
  | cons m moves ih =>
    have onward : selection context (m :: moves) = selection (context.flatMap m.select) moves := rfl
    rw [onward, List.map_cons, List.cons_append, Move.step, select?]
    split
    next nothing =>
      have nothing : context.flatMap m.select = [] := nothing
      rw [nothing, selection_nil, List.findSome?_nil]
    next => exact ih _

theorem one_le_of_predicate? {text : List Char} {n : Nat} (read : predicate? text = some (.position n)) :
    1 ≤ n := by
  unfold predicate? at read
  split at read
  next =>
    obtain ⟨⟨name, value⟩, -, read⟩ := Option.bind_eq_some_iff.mp read
    obtain ⟨unquoted, -, read⟩ := Option.bind_eq_some_iff.mp read
    cases read
  next =>
    split at read
    next =>
      split at read
      next positive =>
        cases read
        exact positive
      next => cases read
    next => cases read

theorem exists_move_of_elementStep? {axis : Axis} {text : List Char} {step : Step}
    (read : elementStep? axis text = some step) : ∃ m : Move, m.step = step := by
  have named {name : List Char} {predicate : Option Predicate}
      (counted : ∀ n, predicate = some (.position n) → 1 ≤ n)
      (read : (if name.isEmpty then none
        else some (.element axis (String.ofList name) predicate)) = some step) :
      ∃ m : Move, m.step = step := by
    split at read
    next => cases read
    next => exact ⟨⟨axis, _, predicate, counted⟩, Option.some.inj read⟩
  unfold elementStep? at read
  dsimp only at read
  split at read
  next =>
    obtain ⟨inside, -, read⟩ := Option.bind_eq_some_iff.mp read
    obtain ⟨predicate, asked, read⟩ := Option.bind_eq_some_iff.mp read
    refine named (fun n eq => ?_) read
    cases eq
    exact one_le_of_predicate? asked
  next => exact named (fun n eq => by cases eq) read

theorem exists_moves_cons {axis : Axis} {raw : List Char} {onward : Option (List Step)} {steps : List Step}
    (following : ∀ {rest}, onward = some rest →
      ∃ (moves : List Move) (ending : Ending), rest = moves.map Move.step ++ ending.steps)
    (read : (do return (← elementStep? axis raw) :: (← onward)) = some steps) :
    ∃ (moves : List Move) (ending : Ending), steps = moves.map Move.step ++ ending.steps := by
  obtain ⟨step, first, read⟩ := Option.bind_eq_some_iff.mp read
  obtain ⟨rest, others, read⟩ := Option.bind_eq_some_iff.mp read
  obtain ⟨m, rfl⟩ := exists_move_of_elementStep? first
  obtain ⟨moves, ending, rfl⟩ := following others
  cases read
  exact ⟨m :: moves, ending, rfl⟩

/-- A path is read as moves and an ending. -/
theorem exists_moves_of_readSteps {text : List Char} {steps : List Step} (read : readSteps text = some steps) :
    ∃ (moves : List Move) (ending : Ending), steps = moves.map Move.step ++ ending.steps := by
  fun_induction readSteps text generalizing steps with
  | case1 =>
    cases read
    exact ⟨[], .content, rfl⟩
  | case2 => cases read
  | case3 rest after ends =>
    rw [if_pos rfl, if_pos ends] at read
    cases read
    exact ⟨[], .ownText, rfl⟩
  | case4 rest after more =>
    rw [if_pos rfl, if_neg more] at read
    cases read
  | case5 rest raw after _ other _ ih =>
    rw [if_neg other] at read
    exact exists_moves_cons ih read
  | case6 => cases read
  | case7 rest _ after name =>
    cases read
    exact ⟨[], .valueOf _, rfl⟩
  | case8 rest _ after ends =>
    rw [if_pos rfl, if_pos ends] at read
    cases read
    exact ⟨[], .ownText, rfl⟩
  | case9 rest _ after more =>
    rw [if_pos rfl, if_neg more] at read
    cases read
  | case10 rest _ raw after _ other _ ih =>
    rw [if_neg other] at read
    exact exists_moves_cons ih read
  | case11 => cases read

theorem exists_moves_of_query? {path : List Char} {steps : List Step} (accepted : query? path = some steps) :
    ∃ (moves : List Move) (ending : Ending), steps = moves.map Move.step ++ ending.steps := by
  unfold query? at accepted
  split at accepted
  next => cases accepted
  next => exact exists_moves_of_readSteps accepted

/-- What a query finds in a document that can be read: nothing exactly when its moves select nothing
or no selected element has the attribute it ends with, and else a text of a selected element. -/
theorem extract?_selected {body path : List Char} {document : Element} {steps : List Step}
    (built : parse? body = some document) (accepted : query? path = some steps) :
    ∃ (moves : List Move) (ending : Ending), steps = moves.map Move.step ++ ending.steps ∧
      (extract? body path = none ↔
        (∀ place, ¬ Selected document moves place) ∨
        ∃ name, ending = .valueOf name ∧ ∀ place e, Selected document moves place →
          document.at? place = some e → e.tag.attribute? name = none) ∧
      ∀ text, extract? body path = some text → ∃ place e, Selected document moves place ∧
        document.at? place = some e ∧ ending.text? e = some text := by
  obtain ⟨moves, ending, rfl⟩ := exists_moves_of_query? accepted
  have found : extract? body path = (selection [document] moves).findSome? ending.text? := by
    rw [← select?_steps, extract?, accepted, built]
    rfl
  refine ⟨moves, ending, rfl, ?_, ?_⟩
  case refine_1 =>
    rw [found, List.findSome?_eq_none_iff]
    constructor
    · intro nowhere
      have silent {place : Place} {e : Element} (selected : Selected document moves place)
          (stands : document.at? place = some e) : ending.text? e = none :=
        nowhere e (mem_selection.mpr ⟨place, selected, stands⟩)
      cases ending with
      | valueOf name => exact .inr ⟨name, rfl, fun place e selected stands =>
          Option.map_eq_none_iff.mp (silent selected stands)⟩
      | _ =>
        refine .inl fun place selected => ?_
        obtain ⟨e, stands⟩ := Option.isSome_iff_exists.mp selected.at?_isSome
        cases silent selected stands
    · intro nowhere e member
      obtain ⟨place, selected, stands⟩ := mem_selection.mp member
      obtain empty | ⟨name, rfl, silent⟩ := nowhere
      · exact absurd selected (empty place)
      · exact Option.map_eq_none_iff.mpr (silent place e selected stands)
  case refine_2 =>
    intro text answer
    obtain ⟨e, member, given⟩ := List.exists_of_findSome?_eq_some (found.symm.trans answer)
    obtain ⟨place, selected, stands⟩ := mem_selection.mp member
    exact ⟨place, e, selected, stands, given⟩

theorem extract?_selected_second :
    let body := "<a><b>x</b><c><b>y</b> <d:b k='1'>z<e>w</e></d:b></c></a>".toList
    let path := "//c/b[2]".toList
    let steps := [.element .descendant "c" none, .element .child "b" (some (.position 2))]
    query? path = some steps ∧ extract? body path = some "zw".toList ∧
    ∃ (document : Element) (moves : List Move) (ending : Ending), parse? body = some document ∧
      steps = moves.map Move.step ++ ending.steps ∧ ∃ place e, Selected document moves place ∧
      document.at? place = some e ∧ ending.text? e = some "zw".toList := by
  intro body path steps
  have readable : (parse? body).isSome := by decide +kernel
  have accepted : query? path = some steps := by decide +kernel
  have answer : extract? body path = some "zw".toList := by decide +kernel
  obtain ⟨document, built⟩ := Option.isSome_iff_exists.mp readable
  obtain ⟨moves, ending, shape, -, selected⟩ := extract?_selected built accepted
  exact ⟨accepted, answer, document, moves, ending, built, shape, selected _ answer⟩

end RequestBook.Markup
