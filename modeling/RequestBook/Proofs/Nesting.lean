import Mathlib.Data.List.Perm.Basic
import RequestBook.Proofs.Groupwise
import RequestBook.Proofs.Roster

/-! How deep values are opened inside one another. A run through a text keeps the open variables as it
goes: it enters a variable before it expands the value and strikes it out afterwards. At every depth
as many variables are open as the depth says, all of them different ones of the scope, and every
expansion leaves open what it found open. So no more values are ever open at once than there are
variables, and a limit above that number makes no difference. -/
namespace RequestBook

/-- The expansion of the value of a variable: how deep it lies, and the variables that are open before
it begins and after it has ended. -/
structure Expansion where
  depth : Nat
  name : String
  before : List String
  after : List String
  deriving DecidableEq

def Expansion.opened (e : Expansion) : List String := e.name :: e.before

/-- A run through a text: what was written so far, the variables that are open, and the expansions in
the order in which they began. -/
structure Run where
  written : List Char
  opened : List String
  expansions : List Expansion
  deriving DecidableEq

namespace Run

def start (opened : List String) : Run := ⟨[], opened, []⟩

def write (run : Run) (text : List Char) : Run := { run with written := run.written ++ text }

def close (run : Run) (depth : Nat) (name : String) (inside : Run) : Run where
  written := run.written ++ inside.written
  opened := inside.opened.erase name
  expansions :=
    run.expansions ++ ⟨depth, name, run.opened, inside.opened.erase name⟩ :: inside.expansions

@[simp] theorem opened_write (run : Run) (text : List Char) : (run.write text).opened = run.opened := rfl

@[simp] theorem expansions_write (run : Run) (text : List Char) :
    (run.write text).expansions = run.expansions := rfl

/-- Pass over one piece at a depth. `expand` runs through a value with the given variables open,
unless that would be too deep. -/
def step (scope : Variables) (depth : Nat) (expand : List String → List Char → Option Run) (run : Run) :
    Piece → Run
  | .char c => run.write [c]
  | .group inner =>
    match (variableName? inner).bind fun name => (scope.get? name).map fun value => (name, value) with
    | none => run.write (groupText inner)
    | some (name, value) =>
      if !hasOpening value.toList then run.write value.toList
      else if run.opened.contains name then run.write (groupText inner)
      else match expand (name :: run.opened) value.toList with
        | none => run.write (groupText inner)
        | some inside => run.close (depth + 1) name inside

end Run

def Context.runAt (ctx : Context) (limit depth : Nat) (opened : List String) (text : List Char) : Run :=
  let expand := fun opened value =>
    if depth + 1 < limit then some (ctx.runAt limit (depth + 1) opened value) else none
  (pieces (replaceGroups ctx.generated? (ctx.store.resolveAll text))).foldl
    (Run.step ctx.scope depth expand) (.start opened)
termination_by limit - depth

def Context.run (ctx : Context) (limit : Nat) (text : String) : Run := ctx.runAt limit 0 [] text.toList

/-- The variables that are open at a depth: as many as the depth says, no two the same, all of the
scope. -/
structure OpenAt (scope : Variables) (depth : Nat) (opened : List String) : Prop where
  count : opened.length = depth
  distinct : opened.Nodup
  known : ∀ name ∈ opened, scope.contains name

section OpenAt

variable {scope : Variables} {depth : Nat} {opened : List String}

theorem openAt_nil (scope : Variables) : OpenAt scope 0 [] where
  count := rfl
  distinct := List.nodup_nil
  known := by simp

theorem OpenAt.enter (opens : OpenAt scope depth opened) {name value : String}
    (found : scope.get? name = some value) (closed : name ∉ opened) :
    OpenAt scope (depth + 1) (name :: opened) where
  count := by rw [List.length_cons, opens.count]
  distinct := List.nodup_cons.mpr ⟨closed, opens.distinct⟩
  known := by
    intro other member
    rcases List.mem_cons.mp member with rfl | member
    · rw [Roster.contains, found]
      rfl
    · exact opens.known other member

/-- No more variables are open than there are. -/
theorem OpenAt.le_size (opens : OpenAt scope depth opened) : depth ≤ scope.size := by
  have known : opened ⊆ scope.entries.map Prod.fst := by
    intro name member
    obtain ⟨value, found⟩ := Option.isSome_iff_exists.mp (opens.known name member)
    obtain ⟨entry, inside, same, _⟩ := Roster.mem_of_get? found
    exact List.mem_map.mpr ⟨entry, inside, same⟩
  have fits := (List.subperm_of_subset opens.distinct known).length_le
  rwa [opens.count, List.length_map] at fits

end OpenAt

namespace Run

variable {scope : Variables} {depth : Nat} {expand expand' : List String → List Char → Option Run}
  {run : Run}

/-- Runs through values leave open what they find open. -/
def Restoring (expand : List String → List Char → Option Run) : Prop :=
  ∀ opened value inside, expand opened value = some inside → inside.opened = opened

/-- A step writes something, or it expands the value of a variable that is not open. -/
theorem step_cases (scope : Variables) (depth : Nat) (expand : List String → List Char → Option Run)
    (run : Run) (piece : Piece) :
    (∃ text, step scope depth expand run piece = run.write text) ∨
    ∃ name value inside, scope.get? name = some value ∧ name ∉ run.opened ∧
      expand (name :: run.opened) value.toList = some inside ∧
      step scope depth expand run piece = run.close (depth + 1) name inside := by
  cases piece with
  | char c => exact .inl ⟨[c], rfl⟩
  | group inner =>
    simp only [step]
    split
    next => exact .inl ⟨_, rfl⟩
    next name value asked =>
      obtain ⟨_, _, found⟩ := Option.bind_eq_some_iff.mp asked
      obtain ⟨_, found, same⟩ := Option.map_eq_some_iff.mp found
      cases same
      split
      next => exact .inl ⟨_, rfl⟩
      next =>
        split
        next => exact .inl ⟨_, rfl⟩
        next closed =>
          split
          next => exact .inl ⟨_, rfl⟩
          next inside expanded =>
            refine .inr ⟨name, value, inside, found, ?_, expanded, rfl⟩
            simpa using closed

theorem opened_step (restoring : Restoring expand) (piece : Piece) :
    (step scope depth expand run piece).opened = run.opened := by
  rcases step_cases scope depth expand run piece with ⟨text, eq⟩ | ⟨name, _, inside, _, _, expanded, eq⟩
  · rw [eq, opened_write]
  · rw [eq, close, restoring _ _ _ expanded, List.erase_cons_head]

theorem opened_foldl (restoring : Restoring expand) (ps : List Piece) :
    (ps.foldl (step scope depth expand) run).opened = run.opened := by
  induction ps generalizing run with
  | nil => rfl
  | cons piece ps ih => rw [List.foldl_cons, ih, opened_step restoring]

def put? (scope : Variables) (expand : List String → List Char → Option Run) (opened : List String)
    (inner : List Char) : Option (List Char) :=
  (variableName? inner).bind fun name =>
    (scope.get? name).bind fun value =>
      if !hasOpening value.toList then some value.toList
      else if opened.contains name then none
      else (expand (name :: opened) value.toList).map Run.written

theorem written_step (piece : Piece) : (step scope depth expand run piece).written =
    run.written ++ piece.replace (put? scope expand run.opened) := by
  cases piece with
  | char c => rfl
  | group inner =>
    cases named : variableName? inner with
    | none => simp [step, put?, Piece.replace, write, named]
    | some name =>
      cases found : scope.get? name with
      | none => simp [step, put?, Piece.replace, write, named, found]
      | some value =>
        simp only [step, put?, Piece.replace, named, found, Option.bind_some, Option.map_some]
        split
        next => rfl
        next =>
          split
          next => rfl
          next => cases expand (name :: run.opened) value.toList <;> rfl

theorem written_foldl (restoring : Restoring expand) (ps : List Piece) :
    (ps.foldl (step scope depth expand) run).written =
      run.written ++ ps.flatMap (Piece.replace (put? scope expand run.opened)) := by
  induction ps generalizing run with
  | nil => simp
  | cons piece ps ih =>
    rw [List.foldl_cons, ih, opened_step restoring, written_step, List.flatMap_cons, List.append_assoc]

/-- Steps only see what is expanded for variables that are not open. -/
theorem step_congr (same : ∀ name value, scope.get? name = some value → name ∉ run.opened →
      expand (name :: run.opened) value.toList = expand' (name :: run.opened) value.toList)
    (piece : Piece) : step scope depth expand run piece = step scope depth expand' run piece := by
  cases piece with
  | char c => rfl
  | group inner =>
    cases named : variableName? inner with
    | none => simp [step, named]
    | some name =>
      cases found : scope.get? name with
      | none => simp [step, named, found]
      | some value =>
        by_cases closed : name ∈ run.opened
        · simp [step, named, found, closed]
        · simp [step, named, found, closed, same name value found closed]

theorem foldl_congr (restoring : Restoring expand) (same : ∀ name value, scope.get? name = some value →
      name ∉ run.opened →
      expand (name :: run.opened) value.toList = expand' (name :: run.opened) value.toList)
    (ps : List Piece) :
    ps.foldl (step scope depth expand) run = ps.foldl (step scope depth expand') run := by
  induction ps generalizing run with
  | nil => rfl
  | cons piece ps ih =>
    rw [List.foldl_cons, List.foldl_cons, ← step_congr same]
    refine ih ?_
    rw [opened_step restoring]
    exact same

end Run

/-- While an expansion lasts, as many variables are open as its depth says; it leaves open what it
found open. -/
structure Expansion.Sound (scope : Variables) (e : Expansion) : Prop where
  opens : OpenAt scope e.depth e.opened
  restores : e.after = e.before

/-- The induction is on the pieces; while they are passed over, the open variables stay those that the
depth asks for. -/
theorem Run.sound_foldl {scope : Variables} {depth : Nat} {expand : List String → List Char → Option Run}
    {run : Run} (restoring : Restoring expand) (opens : OpenAt scope depth run.opened)
    (inside : ∀ opened value nested, OpenAt scope (depth + 1) opened →
      expand opened value = some nested → ∀ e ∈ nested.expansions, e.Sound scope)
    (sound : ∀ e ∈ run.expansions, e.Sound scope) (ps : List Piece) :
    ∀ e ∈ (ps.foldl (step scope depth expand) run).expansions, e.Sound scope := by
  induction ps generalizing run with
  | nil => exact sound
  | cons piece ps ih =>
    have kept : (step scope depth expand run piece).opened = run.opened := opened_step restoring piece
    refine ih (kept.symm ▸ opens) ?_
    rcases step_cases scope depth expand run piece with
      ⟨text, eq⟩ | ⟨name, value, nested, found, closed, expanded, eq⟩
    · rw [eq, expansions_write]
      exact sound
    · have entered := opens.enter found closed
      rw [eq]
      intro e member
      rcases List.mem_append.mp member with earlier | later
      · exact sound e earlier
      · rcases List.mem_cons.mp later with rfl | deeper
        · refine ⟨entered, ?_⟩
          rw [restoring _ _ _ expanded, List.erase_cons_head]
        · exact inside _ _ _ entered expanded e deeper

namespace Context

variable {ctx : Context}

def expandAt (ctx : Context) (limit depth : Nat) (opened : List String) (value : List Char) :
    Option Run :=
  if depth + 1 < limit then some (ctx.runAt limit (depth + 1) opened value) else none

theorem runAt_eq (ctx : Context) (limit depth : Nat) (opened : List String) (text : List Char) :
    ctx.runAt limit depth opened text =
      (pieces (replaceGroups ctx.generated? (ctx.store.resolveAll text))).foldl
        (Run.step ctx.scope depth (ctx.expandAt limit depth)) (.start opened) := by
  rw [runAt]
  rfl

theorem expandAt_eq_some {limit depth : Nat} {opened : List String} {value : List Char} {inside : Run} :
    ctx.expandAt limit depth opened value = some inside ↔
      depth + 1 < limit ∧ ctx.runAt limit (depth + 1) opened value = inside := by
  simp [expandAt]

theorem restoring_expandAt (ctx : Context) (limit depth : Nat) :
    Run.Restoring (ctx.expandAt limit depth) := by
  intro opened value inside expanded
  obtain ⟨shallow, rfl⟩ := expandAt_eq_some.mp expanded
  rw [runAt_eq]
  exact Run.opened_foldl (restoring_expandAt ctx limit (depth + 1)) _
termination_by limit - depth

theorem opened_runAt (ctx : Context) (limit depth : Nat) (opened : List String) (text : List Char) :
    (ctx.runAt limit depth opened text).opened = opened := by
  rw [runAt_eq]
  exact Run.opened_foldl (ctx.restoring_expandAt limit depth) _

/-- A run writes what resolving gives. -/
theorem written_runAt (ctx : Context) (limit depth : Nat) (opened : List String) (text : List Char) :
    (ctx.runAt limit depth opened text).written = ctx.resolveWithin (limit - 1 - depth) opened text := by
  have put : Run.put? ctx.scope (ctx.expandAt limit depth) opened =
      ctx.bound? (limit - 1 - depth) opened := by
    funext inner
    by_cases shallow : depth + 1 < limit
    · have deeper : limit - 1 - depth = limit - 1 - (depth + 1) + 1 := by omega
      rw [deeper]
      simp only [Run.put?, bound?, expandAt, shallow, if_true, Option.map_some,
        written_runAt ctx limit (depth + 1)]
    · have deepest : limit - 1 - depth = 0 := by omega
      rw [deepest]
      simp only [Run.put?, bound?, expandAt, shallow, if_false, Option.map_none]
  rw [runAt_eq, Run.written_foldl (ctx.restoring_expandAt limit depth), resolveWithin_eq, ← resolveAll_eq]
  change [] ++ List.flatMap (Piece.replace (Run.put? ctx.scope _ opened)) _ = _
  rw [List.nil_append, put]
  rfl
termination_by limit - depth

theorem sound_runAt (ctx : Context) (limit : Nat) {depth : Nat} {opened : List String}
    (opens : OpenAt ctx.scope depth opened) (text : List Char) :
    ∀ e ∈ (ctx.runAt limit depth opened text).expansions, e.Sound ctx.scope := by
  rw [runAt_eq]
  refine Run.sound_foldl (ctx.restoring_expandAt limit depth) opens ?_ ?_ _
  · intro opened value nested entered expanded
    obtain ⟨shallow, rfl⟩ := expandAt_eq_some.mp expanded
    exact sound_runAt ctx limit entered value
  · intro e none
    cases none
termination_by limit - depth

/-- Two limits above the number of variables are never reached, so the runs are the same. -/
theorem runAt_congr {first second : Nat} (above : ctx.scope.size < first)
    (above' : ctx.scope.size < second) {depth : Nat} {opened : List String}
    (opens : OpenAt ctx.scope depth opened) (text : List Char) :
    ctx.runAt first depth opened text = ctx.runAt second depth opened text := by
  rw [runAt_eq, runAt_eq]
  refine Run.foldl_congr (ctx.restoring_expandAt first depth) (fun name value found closed => ?_) _
  have entered := opens.enter found closed
  have fits := entered.le_size
  have shallow : depth + 1 < first := by omega
  have shallow' : depth + 1 < second := by omega
  rw [expandAt, expandAt, if_pos shallow, if_pos shallow']
  exact congrArg some (runAt_congr above above' entered value.toList)
termination_by ctx.scope.size - depth

structure Nests (ctx : Context) (limit : Nat) (text : String) : Prop where
  /-- the run writes what resolving gives -/
  written : String.ofList (ctx.run limit text).written = ctx.resolve limit text
  /-- nothing is open in the end -/
  closed : (ctx.run limit text).opened = []
  sound : ∀ e ∈ (ctx.run limit text).expansions, e.Sound ctx.scope
  /-- no more expansions are open at once than there are variables -/
  bounded : ∀ e ∈ (ctx.run limit text).expansions, e.opened.length ≤ ctx.scope.size

theorem nests (ctx : Context) (limit : Nat) (text : String) : ctx.Nests limit text where
  written := by rw [run, written_runAt, Nat.sub_zero, resolve]
  closed := ctx.opened_runAt limit 0 [] text.toList
  sound := ctx.sound_runAt limit (openAt_nil ctx.scope) text.toList
  bounded e member := by
    have opens := (ctx.sound_runAt limit (openAt_nil ctx.scope) text.toList e member).opens
    rw [opens.count]
    exact opens.le_size

/-- However deep values may be opened, a run opens no more of them inside one another than there are
variables. Beyond that number the limit makes no difference to what is expanded and to the result. -/
theorem resolve_limit (ctx : Context) (text : String) :
    (∀ limit, ctx.Nests limit text) ∧
    ∀ first second, ctx.scope.size < first → ctx.scope.size < second →
      ctx.run first text = ctx.run second text ∧ ctx.resolve first text = ctx.resolve second text := by
  refine ⟨fun limit => ctx.nests limit text, fun first second above above' => ?_⟩
  have same : ctx.run first text = ctx.run second text :=
    runAt_congr above above' (openAt_nil ctx.scope) text.toList
  refine ⟨same, ?_⟩
  rw [← (ctx.nests first text).written, ← (ctx.nests second text).written, same]

theorem resolve_limit_entangled : entangled.scope.size = 2 ∧
    (entangled.run 3 "{{v}}{{w}}").expansions =
      [⟨1, "v", [], []⟩, ⟨2, "w", ["v"], ["v"]⟩, ⟨1, "w", [], []⟩, ⟨2, "v", ["w"], ["w"]⟩] ∧
    entangled.resolve 2 "{{v}}{{w}}" ≠ entangled.resolve 3 "{{v}}{{w}}" ∧
    entangled.resolve 3 "{{v}}{{w}}" = entangled.resolve 1000 "{{v}}{{w}}" := by
  have size : entangled.scope.size = 2 := by decide +kernel
  refine ⟨size, by decide +kernel, by decide +kernel, ?_⟩
  exact ((entangled.resolve_limit "{{v}}{{w}}").2 3 1000 (by omega) (by omega)).2

end Context

end RequestBook
