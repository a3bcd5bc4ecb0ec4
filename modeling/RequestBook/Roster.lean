import RequestBook.Text.Case

/-! Ordered named values. A roster keeps one entry for each key, in the order in which the keys
first came; the key of a name is given by a function, so that names which only differ in case can
share an entry. A later insertion replaces value and spelling and keeps the place. -/
namespace RequestBook

structure Roster (key : String → String) (α : Type) where
  entries : List (String × α)
  distinct : (entries.map fun entry => key entry.1).Nodup

namespace Roster

variable {key : String → String} {α : Type}

instance [DecidableEq α] : DecidableEq (Roster key α) := fun a b =>
  if same : a.entries = b.entries then
    isTrue (by cases a; cases b; cases same; rfl)
  else isFalse fun eq => same (congrArg entries eq)

def empty : Roster key α := ⟨[], List.nodup_nil⟩

instance : Inhabited (Roster key α) := ⟨empty⟩

def place (key : String → String) (name : String) (value : α) :
    List (String × α) → List (String × α)
  | [] => [(name, value)]
  | entry :: rest =>
    if key entry.1 = key name then (name, value) :: rest
    else entry :: place key name value rest

theorem keys_place (name : String) (value : α) (entries : List (String × α)) :
    (place key name value entries).map (fun entry => key entry.1) =
      if key name ∈ entries.map (fun entry => key entry.1) then entries.map (fun entry => key entry.1)
      else entries.map (fun entry => key entry.1) ++ [key name] := by
  induction entries with
  | nil => simp [place]
  | cons entry rest ih =>
    by_cases same : key entry.1 = key name
    · simp [place, same]
    · have other : key name ≠ key entry.1 := fun eq => same eq.symm
      simp only [place, same, if_false, List.map_cons, ih, List.mem_cons, other, false_or]
      split <;> simp

def insert (roster : Roster key α) (name : String) (value : α) : Roster key α where
  entries := place key name value roster.entries
  distinct := by
    rw [keys_place]
    split
    · exact roster.distinct
    next fresh =>
      refine List.nodup_append.mpr ⟨roster.distinct, by simp, ?_⟩
      intro k member k' single eq
      cases List.mem_singleton.mp single
      exact fresh (eq ▸ member)

def ofList (pairs : List (String × α)) : Roster key α :=
  pairs.foldl (fun roster pair => roster.insert pair.1 pair.2) empty

def overlay (roster upper : Roster key α) : Roster key α :=
  upper.entries.foldl (fun roster pair => roster.insert pair.1 pair.2) roster

def find? (roster : Roster key α) (name : String) : Option (String × α) :=
  roster.entries.find? fun entry => key entry.1 == key name

def get? (roster : Roster key α) (name : String) : Option α := (roster.find? name).map Prod.snd

def contains (roster : Roster key α) (name : String) : Bool := (roster.get? name).isSome

def size (roster : Roster key α) : Nat := roster.entries.length

def isEmpty (roster : Roster key α) : Bool := roster.entries.isEmpty

def modify (roster : Roster key α) (name : String) (change : α → α) : Roster key α where
  entries := roster.entries.map fun entry =>
    if key entry.1 = key name then (entry.1, change entry.2) else entry
  distinct := by
    have same : (fun entry : String × α => key entry.1) ∘
        (fun entry => if key entry.1 = key name then (entry.1, change entry.2) else entry) =
        fun entry => key entry.1 := by
      funext entry
      simp only [Function.comp]
      split <;> rfl
    rw [List.map_map, same]
    exact roster.distinct

/-- The values changed, each by its number, and names and places kept. -/
def mapValues {β : Type} (roster : Roster key α) (change : Nat → α → β) : Roster key β where
  entries := roster.entries.mapIdx fun i entry => (entry.1, change i entry.2)
  distinct := by
    have same : (roster.entries.mapIdx fun i entry => (entry.1, change i entry.2)).map
        (fun entry => key entry.1) = roster.entries.map fun entry => key entry.1 := by
      refine List.ext_getElem? fun i => ?_
      simp [Option.map_map, Function.comp_def]
    rw [same]
    exact roster.distinct

end Roster

def foldName (name : String) : String := String.ofList (Text.lowerAscii name.toList)

def sameName (a b : String) : Bool := foldName a == foldName b

abbrev Variables := Roster id String

abbrev Headers := Roster foldName String

end RequestBook
