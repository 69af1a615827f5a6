import RecordBuilders.Stack
import RecordBuilders.Target.ClassPair

/-! One module for many declarations. Every declaration is tried; a module comes out only if none
of them fails. -/
namespace RecordBuilders.Target
open Syntax Text

def header : String :=
  "# Generated by strict-builder. Do not edit.\n" ++
  "from __future__ import annotations\n" ++
  "\n" ++
  "from dataclasses import dataclass as _dataclass\n" ++
  "from typing import Optional\n" ++
  "\n" ++
  "from strict_builder.runtime import MissingFieldError as _MissingFieldError\n"

/-- The classes of a module below its header, two blank lines before each pair. -/
def moduleText (pairs : List ClassPair) : String :=
  pairs.foldl (fun text pair => text ++ "\n\n" ++ pair.text) header

/-- Why there is no module: a type has no hint, or problems were found in the declarations. -/
inductive Refusal where
  | unhinted (fault : HintFault)
  | problems (diagnostics : Diagnostics)
  deriving Repr

/-- The classes of one declaration. -/
def derive (c : Config) (file : Option String) (d : Declaration) : Except Refusal ClassPair :=
  match c.members d with
  | .error issues => .error (.problems (issues.map (·.diagnostic file)))
  | .ok members => (classPair c d.name members).mapError .unhinted

/-- A declaration and the file that it comes from. -/
structure Item where
  declaration : Declaration
  file : Option String := none
  deriving Repr

/-- A class name that an earlier declaration has taken. -/
structure ClassClash where
  name : String
  owner : Declaration
  deriving Repr

inductive Outcome where
  | duplicate (first : Declaration)
  | clash (clashes : List ClassClash)
  | tried (result : Except Refusal ClassPair)

def classNames (c : Config) (d : Declaration) : List String := [d.name, c.builderName d.name]

/-- The classes of `d` that the declarations in `owners` have already given. -/
def classClashes (c : Config) (owners : List Declaration) (d : Declaration) : List ClassClash :=
  (classNames c d).filterMap fun name =>
    (owners.find? fun owner => (classNames c owner).contains name).map (⟨name, ·⟩)

/-- What becomes of each item. `earlier` holds the declarations before it and `owners` those that
got their class names; a declaration owns its names even if its own members are at fault. -/
def outcomesFrom (c : Config) (earlier owners : List Declaration) : List Item → List (Item × Outcome)
  | [] => []
  | item :: items =>
    let d := item.declaration
    match earlier.find? (·.name == d.name) with
    | some first => (item, .duplicate first) :: outcomesFrom c (earlier ++ [d]) owners items
    | none =>
      match classClashes c owners d with
      | [] =>
        (item, .tried (derive c item.file d)) ::
          outcomesFrom c (earlier ++ [d]) (owners ++ [d]) items
      | clashes => (item, .clash clashes) :: outcomesFrom c (earlier ++ [d]) owners items

def outcomes (c : Config) (items : List Item) : List (Item × Outcome) := outcomesFrom c [] [] items

/-- A note that places a declaration, if its place is known. -/
def placeNotes (text : String) (d : Declaration) : List String :=
  match d.location with
  | some p => [text ++ " at line " ++ toString p.line]
  | none => []

def duplicateIssue (d first : Declaration) : Issue where
  category := .naming
  message := "duplicate declaration `" ++ d.name ++ "`"
  origin := .ofPosition? d.location
  notes := placeNotes "first declared" first

def ClassClash.issue (d : Declaration) (clash : ClassClash) : Issue where
  category := .naming
  message := "class `" ++ clash.name ++ "` generated for `" ++ d.name ++ "` collides with the " ++
    if clash.name = clash.owner.name then "record" else "builder of `" ++ clash.owner.name ++ "`"
  origin := .ofPosition? d.location
  notes := placeNotes ("`" ++ clash.owner.name ++ "` declared") clash.owner

/-- What an item adds to the diagnostics of the module. -/
def Outcome.diagnostics (item : Item) : Outcome → Diagnostics
  | .duplicate first => [(duplicateIssue item.declaration first).diagnostic item.file]
  | .clash clashes => clashes.map fun clash => (clash.issue item.declaration).diagnostic item.file
  | .tried (.error (.problems diagnostics)) => diagnostics
  | .tried _ => []

def Outcome.hintFault? : Outcome → Option HintFault
  | .tried (.error (.unhinted fault)) => some fault
  | _ => none

def Outcome.classes? : Outcome → Option ClassPair
  | .tried (.ok pair) => some pair
  | _ => none

/-- The classes of all items. A type without a hint is reported before any other problem. -/
def classes (c : Config) (items : List Item) : Except Refusal (List ClassPair) :=
  let found := outcomes c items
  match found.findSome? fun (_, outcome) => outcome.hintFault? with
  | some fault => .error (.unhinted fault)
  | none =>
    match found.flatMap fun (item, outcome) => outcome.diagnostics item with
    | [] => .ok (found.filterMap fun (_, outcome) => outcome.classes?)
    | diagnostics => .error (.problems diagnostics)

/-- The text of the module for all items. -/
def generate (c : Config) (items : List Item) : Except Refusal String :=
  moduleText <$> classes c items

/-- There is room for what an item comes to. Only declarations that are tried take any. -/
def hasRoom (s : Stack) (c : Config) : Item × Outcome → Bool
  | (item, .tried _) => s.derives c item.declaration
  | _ => true

theorem deep_of_hasRoom {s : Stack} {c : Config} {o : Item × Outcome}
    (h : hasRoom s c o = false) : o.1.declaration.nestsWithin s.depth = false := by
  obtain ⟨item, outcome⟩ := o
  cases outcome with
  | tried => exact Stack.deep_of_derives h
  | duplicate | clash => cases h

/-- The text of the module, if there is room for generating it. -/
def generateOn (s : Stack) (c : Config) (items : List Item) :
    Except StackOverflow (Except Refusal String) :=
  if (outcomes c items).all (hasRoom s c) then .ok (generate c items) else .error {}

theorem generateOn_eq_ok_iff {s : Stack} {c : Config} {items : List Item}
    {r : Except Refusal String} : generateOn s c items = .ok r ↔
      generate c items = r ∧ ∀ o ∈ outcomes c items, hasRoom s c o = true := by
  unfold generateOn
  split <;> simp_all

theorem generateOn_eq_error_iff {s : Stack} {c : Config} {items : List Item} {e : StackOverflow} :
    generateOn s c items = .error e ↔ ∃ o ∈ outcomes c items, hasRoom s c o = false := by
  unfold generateOn
  split <;> simp_all

end RecordBuilders.Target
