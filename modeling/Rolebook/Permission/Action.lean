import Rolebook.Fault
import Rolebook.Json.Record

/-!
# Actions

What a permission allows. An action is written as one small word; on a command line or in a setting
its case and the white space around it do not matter, while in JSON the word is exact.
-/

namespace Rolebook

/-- What a permission allows, in the order actions are listed. -/
inductive Action where
  | read
  | write
  | delete
  | admin
  | create
  | update
  deriving DecidableEq

namespace Action

/-- All actions, in order. -/
def all : List Action := [read, write, delete, admin, create, update]

/-- The word for an action. -/
def word : Action → String
  | read => "read"
  | write => "write"
  | delete => "delete"
  | admin => "admin"
  | create => "create"
  | update => "update"

instance : ToString Action := ⟨word⟩

/-- The place in the order. -/
def place : Action → Nat
  | read => 0
  | write => 1
  | delete => 2
  | admin => 3
  | create => 4
  | update => 5

/-- No two actions have the same place in their order. -/
theorem place_inj {a b : Action} (h : a.place = b.place) : a = b := by
  revert h
  cases a <;> cases b <;> simp [place]

instance : Ranked Action := ⟨place, place_inj⟩

/-- The action that a word is the word for. -/
def ofWord? (s : String) : Option Action :=
  all.find? fun a => a.word == s

/-- The action that a text names. -/
def ofText (s : String) : Except Fault Action :=
  match ofWord? (Text.lower (Text.trim s)) with
  | some a => .ok a
  | none => .error (.unknownAction s)

/-- An action as JSON. -/
def toJson (a : Action) : Json := .ofText a.word

/-- An action from JSON: its word, or an object with `null` under its word. -/
def ofJson? : Json → Option Action
  | .string (some s) => ofWord? s
  | .object [(some s, .null)] => ofWord? s
  | _ => none

end Action

end Rolebook
