/-
CodegenRun/Json/Basic.lean

JSON values.  A number is an integer or a binary floating-point number and the two stay apart;
an object is the list of its members.  `get?` is the view of an object that all later modules
use: it finds the first member of a name, so members of other names never matter.

The reader builds objects with `insertMember`, which keeps the names in increasing order (by
code point, which is also the order of their UTF-8 bytes) and lets a later member replace an
earlier one of the same name.
-/
import CodegenRun.Binary64.Basic

namespace CodegenRun

/-- A value.  Members of an object may share a name. -/
inductive Json where
  | null
  | bool (b : Bool)
  | int (n : Int)
  | float (x : Binary64)
  | str (s : String)
  | arr (items : List Json)
  | obj (members : List (String × Json))
deriving Repr, Inhabited

namespace Json

/-! ### Equality -/

mutual

/-- Whether two values are the same, members in the same order. -/
def same : Json → Json → Bool
  | .null, .null => true
  | .bool a, .bool b => a == b
  | .int a, .int b => a == b
  | .float a, .float b => a == b
  | .str a, .str b => a == b
  | .arr a, .arr b => sameItems a b
  | .obj a, .obj b => sameMembers a b
  | _, _ => false

def sameItems : List Json → List Json → Bool
  | [], [] => true
  | a :: as, b :: bs => same a b && sameItems as bs
  | _, _ => false

def sameMembers : List (String × Json) → List (String × Json) → Bool
  | [], [] => true
  | (k, a) :: as, (l, b) :: bs => k == l && same a b && sameMembers as bs
  | _, _ => false

end

instance : BEq Json := ⟨same⟩

mutual

theorem same_eq_true_iff : ∀ a b : Json, same a b = true ↔ a = b
  | .null, b => by cases b <;> simp [same]
  | .bool _, b => by cases b <;> simp [same]
  | .int _, b => by cases b <;> simp [same]
  | .float _, b => by cases b <;> simp [same]
  | .str _, b => by cases b <;> simp [same]
  | .arr as, b => by cases b <;> simp [same, sameItems_eq_true_iff]
  | .obj as, b => by cases b <;> simp [same, sameMembers_eq_true_iff]

theorem sameItems_eq_true_iff : ∀ as bs : List Json, sameItems as bs = true ↔ as = bs
  | [], bs => by cases bs <;> simp [sameItems]
  | a :: as, bs => by
    cases bs <;> simp [sameItems, same_eq_true_iff a, sameItems_eq_true_iff as]

theorem sameMembers_eq_true_iff :
    ∀ as bs : List (String × Json), sameMembers as bs = true ↔ as = bs
  | [], bs => by cases bs <;> simp [sameMembers]
  | (k, a) :: as, bs => by
    rcases bs with - | ⟨⟨l, b⟩, bs⟩
    · simp [sameMembers]
    · simp [sameMembers, same_eq_true_iff a, sameMembers_eq_true_iff as]

end

instance : LawfulBEq Json where
  rfl := (same_eq_true_iff _ _).2 rfl
  eq_of_beq h := (same_eq_true_iff _ _).1 h

instance : DecidableEq Json := fun a b => decidable_of_iff _ (same_eq_true_iff a b)

/-! ### Members -/

/-- The value of the first member called `key`, if the value is an object that has one. -/
def get? (key : String) : Json → Option Json
  | .obj members => members.lookup key
  | _ => none

/-- Adds a member in the order of the names, in place of one of the same name. -/
def insertMember {α : Type} (key : String) (value : α) :
    List (String × α) → List (String × α)
  | [] => [(key, value)]
  | (k, v) :: rest =>
    if key < k then (key, value) :: (k, v) :: rest
    else if key = k then (key, value) :: rest
    else (k, v) :: insertMember key value rest

/-- Whether the value is an object. -/
def isObject : Json → Bool
  | .obj _ => true
  | _ => false

/-! ### Order of members -/

mutual

/-- A value with the members of each object in the order of their names, and of several members
of one name the last, at every depth.  It is the form in which values are read. -/
def sorted : Json → Json
  | .arr items => .arr (sortedItems items)
  | .obj members => .obj (sortedMembers [] members)
  | v => v

def sortedItems : List Json → List Json
  | [] => []
  | v :: rest => sorted v :: sortedItems rest

/-- Adds sorted members to those that are done. -/
def sortedMembers (done : List (String × Json)) :
    List (String × Json) → List (String × Json)
  | [] => done
  | (key, v) :: rest => sortedMembers (insertMember key (sorted v) done) rest

end

/-! ### Nesting -/

mutual

/-- How many arrays and objects lie inside each other at most. -/
def depth : Json → Nat
  | .arr items => depthItems items + 1
  | .obj members => depthMembers members + 1
  | _ => 0

def depthItems : List Json → Nat
  | [] => 0
  | v :: vs => max (depth v) (depthItems vs)

def depthMembers : List (String × Json) → Nat
  | [] => 0
  | (_, v) :: rest => max (depth v) (depthMembers rest)

end

end Json

end CodegenRun
