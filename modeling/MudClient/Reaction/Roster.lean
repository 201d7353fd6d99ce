/-! Lists of items that are told apart by a key. An item that is put in again takes the place of the
old one, so the order is that in which the keys came first. -/
namespace MudClient

class Keyed (α : Type) (κ : outParam Type) where
  key : α → κ

structure Roster (α : Type) where
  items : List α

namespace Roster

variable {α κ : Type} [Keyed α κ] [DecidableEq κ]

open Keyed (key)

instance : EmptyCollection (Roster α) := ⟨⟨[]⟩⟩
instance : Inhabited (Roster α) := ⟨∅⟩

/-- In place of the item of the same key, or at the end. -/
def putItem (item : α) : List α → List α
  | [] => [item]
  | x :: r => if key x = key item then item :: r else x :: putItem item r

def put (r : Roster α) (item : α) : Roster α := ⟨putItem item r.items⟩

def find? (r : Roster α) (k : κ) : Option α := r.items.find? fun x => key x = k

def remove (r : Roster α) (k : κ) : Roster α := ⟨r.items.eraseP fun x => key x = k⟩

def modify (r : Roster α) (k : κ) (f : α → α) : Roster α :=
  ⟨r.items.map fun x => if key x = k then f x else x⟩

def size (r : Roster α) : Nat := r.items.length

def isEmpty (r : Roster α) : Bool := r.items.isEmpty

end Roster
end MudClient
